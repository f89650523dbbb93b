import MarkupBridge.Markdown.Passage

namespace MarkupBridge.Markdown
open Text

/-- A place in a line: its column, the columns taken of the tab it is inside, if any, and what
follows that tab. Tabs reach to the next column that is a multiple of four; the columns left of one
are pads that stand for no character. -/
structure Cursor where
  column : Nat
  taken : Nat
  rest : Text
deriving DecidableEq, Repr

namespace Cursor

/-- The columns that a character takes. -/
def width (column : Nat) (c : Char) : Nat := if c = '\t' then 4 - column % 4 else 1

/-- The columns that are left of the tab. -/
def spare (c : Cursor) : Nat := if c.taken = 0 then 0 else 4 - c.column % 4

/-- The columns of the pads at a place. -/
def indent (c : Cursor) : Nat := indentFrom (c.column + c.spare) c.rest - c.column
where
  indentFrom (column : Nat) : Text → Nat
    | [] => column
    | c :: t => if isPad c then indentFrom (column + width column c) t else column

/-- The place up to `n` columns of pads further on. -/
def skip (n : Nat) (c : Cursor) : Cursor :=
  if n < c.spare then ⟨c.column + n, c.taken + n, c.rest⟩
  else go (c.column + c.spare) (c.column + n) c.rest
where
  go (column goal : Nat) : Text → Cursor
    | [] => ⟨column, 0, []⟩
    | c :: t =>
      if isPad c && column < goal then
        let next := column + width column c
        if next ≤ goal then go next goal t else ⟨goal, goal - column, t⟩
      else ⟨column, 0, c :: t⟩

/-- The place behind all pads. -/
def skipAll (c : Cursor) : Cursor := c.skip c.indent

def isBlank (c : Cursor) : Bool := c.rest.all isPad

/-- The place behind `n` characters that are no pads; a column is a byte. -/
def drop (n : Nat) (c : Cursor) : Cursor :=
  ⟨c.column + byteCount (c.rest.take n), 0, c.rest.drop n⟩

/-- The character at a place, unless pads of a tab are left before it. -/
def head? (c : Cursor) : Option Char := if c.taken = 0 then c.rest.head? else none

/-- What a line that ends in the text at a place has in front of it. -/
def margin (c : Cursor) (body : Text) : Margin :=
  ⟨body.take (body.length - c.rest.length), c.taken != 0⟩

end Cursor

end MarkupBridge.Markdown
