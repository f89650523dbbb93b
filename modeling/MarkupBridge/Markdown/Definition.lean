import MarkupBridge.Markdown.Reference

namespace MarkupBridge.Markdown
open Text

structure Definition where
  label : Label
  resource : Resource
deriving DecidableEq, Repr

namespace Definition

/-- What follows the line that `t` is the blank end of. -/
def finishLine? (t : Text) : Option Text :=
  match t.dropWhile isPad with
  | [] => some []
  | t => afterLineEnd? t

/-- A title that ends its line. -/
def finishTitle? (t : Text) : Option (Text × Text) := do
  let inner := skipBlanks t
  guard (inner.length < t.length)
  let (raw, rest) ← title? inner
  return (raw, ← finishLine? rest)

/-- The definition in front of a passage, and the lines after it. A title that does not end its line
is none. -/
def read? (p : Passage) : Option (Definition × Passage) :=
  match p.text.dropWhile isPad with
  | '[' :: t => do
    let ms := p.margins.tail
    let (raw, t) ← Label.readRaw? t
    let label := Label.ofRaw ms raw
    let (url, t) ← destination? none 0 (skipBlanks (← after? [':'] t))
    match finishTitle? t with
    | some (title, rest) =>
      let ms := Margin.after ms p.text (skipBlanks t)
      return (⟨label, .ofRaw ms url (some title)⟩, p.dropTo rest)
    | none => return (⟨label, .ofRaw [] url none⟩, p.dropTo (← finishLine? t))
  | _ => none

/-- At most `n` definitions in front of a passage, and the passage without them. -/
def takeUpTo : Nat → Passage → List Definition × Passage
  | 0, p => ([], p)
  | n + 1, p =>
    match read? p with
    | some (d, rest) =>
      let (ds, rest) := takeUpTo n rest
      (d :: ds, rest)
    | none => ([], p)

/-- The definitions in front of a passage, and the passage without them: there are no more of them
than characters. -/
def takeAll (p : Passage) : List Definition × Passage := takeUpTo p.text.length p

end Definition

end MarkupBridge.Markdown
