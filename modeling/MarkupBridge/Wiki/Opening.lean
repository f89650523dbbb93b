import MarkupBridge.Text.Blank
import MarkupBridge.Wiki.Piece

namespace MarkupBridge.Wiki
open Text

/-- A line of a list: its tabs, its marker and its text. -/
structure Entry where
  depth : Nat
  marker : Marker
  text : Text
deriving DecidableEq, Repr

/-- Tabs, an asterisk with the letter of its kind, and a space before the text. -/
def Entry.read? (line : Text) : Option Entry :=
  let depth := (line.takeWhile (· == '\t')).length
  let entry (marker : Marker) (t : Text) := (after? [' '] t).map fun t => ⟨depth, marker, trim t⟩
  match line.dropWhile (· == '\t') with
  | '*' :: '.' :: t => entry .ordered t
  | '*' :: 'v' :: t => entry .done t
  | '*' :: 'x' :: t => entry .todo t
  | '*' :: t => entry .unordered t
  | _ => none

inductive Opening where
  | fence (language : Option Text)
  | rocket
  | embed (target : Text)
  | heading (level : Nat) (text : Text)
  | rule
  | entry (e : Entry)
  | quote
  | table (caption : Option Text)
  | image (layout : Option Text) (inside : Text)
deriving DecidableEq, Repr

namespace Opening

def isFence (line : Text) : Bool := startsWith ['\x60', '\x60', '\x60'] line

def isRocket (line : Text) : Bool := startsWith ['=', '>'] line

def isQuote (line : Text) : Bool := startsWith ['>'] line

/-- One to six equals signs and a space. -/
def heading? (line : Text) : Option (Nat × Text) :=
  let level := (line.takeWhile (· == '=')).length
  if 1 ≤ level ∧ level ≤ 6 then (after? [' '] (line.drop level)).map fun t => (level, trim t)
  else none

/-- Four hyphens or more and nothing else. -/
def isRule (line : Text) : Bool :=
  let t := trimEnd line
  4 ≤ t.length && t.all (· == '-')

/-- The caption of a line `table caption \x7b`. -/
def table? (line : Text) : Option (Option Text) :=
  ((after? "table".toList (trim line)).bind fun t =>
      if t.getLast? = some '\x7b' then some t.dropLast else none).bind fun caption =>
    if caption.head?.all isBlank then some (nonempty? (trim caption)) else none

/-- The layout of a line `img layout \x7b`, one word at most, and what follows the brace. -/
def image? (line : Text) : Option (Option Text × Text) :=
  ((after? "img".toList (trimStart line)).bind (cutChar? '\x7b')).bind fun (layout, inside) =>
    if layout.head?.all isBlank && (trim layout).all (!isBlank ·) then
      some (nonempty? (trim layout), inside)
    else none

/-- What a line opens. Where several readings fit, the first one counts. -/
def read? (line : Text) : Option Opening :=
  if isFence line then some (.fence (nonempty? (trim (line.dropWhile (· == '\x60')))))
  else if isRocket line then some .rocket
  else match after? ['<', '='] line with
  | some t => some (.embed (Link.read t).address)
  | none => match heading? line with
    | some (level, t) => some (.heading level t)
    | none =>
      if isRule line then some .rule
      else match Entry.read? line with
      | some e => some (.entry e)
      | none =>
        if isQuote line then some .quote
        else match table? line with
        | some caption => some (.table caption)
        | none => (image? line).map fun (layout, inside) => .image layout inside

/-- Whether a line opens some block, and so ends a paragraph before it. -/
def startsBlock (line : Text) : Bool :=
  isFence line || isRocket line || startsWith ['<', '='] line || isQuote line
    || (heading? line).isSome || isRule line || (Entry.read? line).isSome || (table? line).isSome
    || (image? line).isSome

/-- A line opens a block exactly if some block can be read off it. -/
theorem isSome_read? (line : Text) : (read? line).isSome = startsBlock line := by
  unfold read? startsBlock startsWith
  cases isFence line <;> cases isRocket line <;> cases after? ['<', '='] line <;>
    cases heading? line <;> cases isRule line <;> cases Entry.read? line <;>
    cases isQuote line <;> cases table? line <;> simp

end Opening

end MarkupBridge.Wiki
