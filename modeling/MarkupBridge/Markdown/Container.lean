import MarkupBridge.Markdown.Block
import MarkupBridge.Markdown.Cursor
import MarkupBridge.Markdown.Dialect

namespace MarkupBridge.Markdown
open Text

/-- The deepest indentation that is no code. -/
def Dialect.admits (d : Dialect) (indent : Nat) : Bool := !d.codeIndented || indent ≤ 3

/-- A line of three or more equal marks. -/
def isRule (t : Text) : Bool :=
  match t.filter (!isPad ·) with
  | [] => false
  | m :: ms => (m == '*' || m == '-' || m == '_') && 2 ≤ ms.length && ms.all (· == m)

/-- Whether a last line has fewer marks than a rule, and nothing else. -/
def isRulePending (t : Text) : Bool :=
  match t.filter (!isPad ·) with
  | [] => false
  | m :: ms => (m == '*' || m == '-' || m == '_') && ms.length < 2 && ms.all (· == m)

/-- The lines of an item are indented by `width` columns more than those around it; it is `bare` while
nothing but its marker is known of it. -/
inductive Container where
  | root
  | quote
  | item (marker : Marker) (width : Nat) (bare : Bool)
  | footnote (label : Label)
deriving DecidableEq, Repr

namespace Container

/-- Behind the mark of a quote and the one blank after it. -/
def quoted? (d : Dialect) (c : Cursor) : Option Cursor :=
  let inner := c.skipAll
  if d.admits c.indent && inner.rest.head? = some '>' then some ((inner.drop 1).skip 1) else none

/-- The container and the place behind its share of a line, if the line goes on with it. -/
def continue? (d : Dialect) (c : Cursor) : Container → Option (Container × Cursor)
  | root => some (root, c)
  | quote => (quoted? d c).map fun c => (quote, c)
  | item m width bare =>
    if c.isBlank then if bare then none else some (item m width bare, c.skip width)
    else if width ≤ c.indent then some (item m width false, c.skip width)
    else none
  | footnote label =>
    if c.isBlank || 4 ≤ c.indent then some (footnote label, c.skip 4) else none

/-- The marker in front of a text, and its length. A paragraph ends only at a list that counts from
one. -/
def marker? (interrupts : Bool) (t : Text) : Option (Marker × Nat) :=
  match t with
  | [] => none
  | c :: _ =>
    if c = '+' then some (⟨c, none⟩, 1)
    else if c = '*' || c = '-' then if isRule t then none else some (⟨c, none⟩, 1)
    else
      let digits := t.takeWhile Char.isDigit
      match t.dropWhile Char.isDigit with
      | s :: _ =>
        if (s = '.' || s = ')') && !digits.isEmpty && digits.length ≤ 9
            && (!interrupts || digits = ['1'])
        then some (⟨s, some (Entity.number 10 digits)⟩, digits.length + 1)
        else none
      | [] => none

/-- What an item's lines are indented by whose marker stands between two places: the characters
there. A tab is one of them, unless one of the places is inside it. -/
def span (c c' : Cursor) : Nat :=
  c.rest.length - c'.rest.length + (if c.taken = 0 then 0 else 4 - c.taken) + (c'.taken - 1)

/-- What comes to that for a marker alone in its line: one character, or both of the line's ending
where that follows at once. -/
def blankWidth (c : Cursor) (ending : Text) : Nat := if c.rest.isEmpty then max 1 ending.length else 1

def item? (d : Dialect) (interrupts : Bool) (ending : Text) (c : Cursor) :
    Option (Container × Cursor) := do
  let inner := c.skipAll
  guard (d.admits c.indent)
  let (m, length) ← marker? interrupts inner.rest
  let c' := inner.drop length
  if c'.isBlank then
    guard !interrupts
    return (item m (span c c' + blankWidth c' ending) true, c')
  else
    guard (0 < c'.indent)
    let c'' := c'.skip (if c'.indent ≤ 4 then c'.indent else 1)
    return (item m (span c c'') false, c'')

def footnote? (d : Dialect) (c : Cursor) : Option (Container × Cursor) := do
  let inner := c.skipAll
  guard (d.gfm && d.admits c.indent)
  let t ← after? ['[', '^'] inner.rest
  let (raw, t) ← Label.readFootnoteRaw? t
  let t ← after? [':'] t
  return (footnote (.ofRaw [] raw), (inner.drop (inner.rest.length - t.length)).skipAll)

/-- The container that a line opens at a place. -/
def open? (d : Dialect) (interrupts : Bool) (ending : Text) (c : Cursor) :
    Option (Container × Cursor) :=
  ((quoted? d c).map fun c => (quote, c)) <|> item? d interrupts ending c <|> footnote? d c

/-- The containers, at most `n`, that a line opens at a place, and the place behind them. -/
def openUpTo (d : Dialect) (interrupts : Bool) (ending : Text) :
    Nat → Cursor → List Container × Cursor
  | 0, c => ([], c)
  | n + 1, c =>
    match open? d interrupts ending c with
    | some (k, c) =>
      let (ks, c) := openUpTo d interrupts ending n c
      (k :: ks, c)
    | none => ([], c)

/-- The containers that a line opens: each has a mark of its own in the text. -/
def openAll (d : Dialect) (interrupts : Bool) (ending : Text) (c : Cursor) :
    List Container × Cursor :=
  openUpTo d interrupts ending c.rest.length c

def isItem : Container → Bool
  | item .. => true
  | _ => false

end Container

end MarkupBridge.Markdown
