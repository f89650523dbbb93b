import MarkupBridge.Markdown.PunctuationTable
import MarkupBridge.Text.Blank
import MarkupBridge.Text.Case

namespace MarkupBridge.Markdown
open Text

/-- What marks of emphasis look at on both sides of a run. The ends of a text count as space. -/
inductive CharClass where
  | space | punctuation | other
deriving DecidableEq, Repr

def isAsciiPunctuation (c : Char) : Bool :=
  ('!' ≤ c && c ≤ '/') || (':' ≤ c && c ≤ '@') || ('[' ≤ c && c ≤ '\x60') || ('\x7b' ≤ c && c ≤ '~')

def CharClass.of : Option Char → CharClass
  | none => .space
  | some c =>
    if isBlank c then .space
    else if isAsciiPunctuation c || inRanges punctuationRanges c then .punctuation
    else .other

/-- A space or a tab: blanks within a line. -/
def isPad (c : Char) : Bool := c == ' ' || c == '\t'

def isLineEnd (c : Char) : Bool := c == '\n' || c == '\r'

def isControl (c : Char) : Bool := (1 ≤ c.toNat && c.toNat ≤ 0x1F) || c.toNat == 0x7F

/-- The bytes a text takes in UTF-8. -/
def byteCount (t : Text) : Nat := t.foldl (fun n c => n + c.utf8Size) 0

def trimPads (t : Text) : Text := dropEndWhile isPad (t.dropWhile isPad)

/-- What follows the line ending at the front of a text. -/
def afterLineEnd? : Text → Option Text
  | '\r' :: '\n' :: t => some t
  | '\r' :: t => some t
  | '\n' :: t => some t
  | _ => none

/-- The line ending at the front of a text, and what follows. -/
def spanLineEnd? (t : Text) : Option (Text × Text) :=
  (afterLineEnd? t).map fun rest => (t.take (t.length - rest.length), rest)

/-- A text without one line ending at its end. -/
def chopLineEnd (t : Text) : Text :=
  match t.reverse with
  | '\n' :: '\r' :: r => r.reverse
  | '\n' :: r => r.reverse
  | '\r' :: r => r.reverse
  | _ => t

end MarkupBridge.Markdown
