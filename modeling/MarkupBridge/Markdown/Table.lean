import MarkupBridge.Markdown.Block

namespace MarkupBridge.Markdown
open Text

namespace Cell

/-- A cell with a neighbour on each side, which the blanks around its text take the place of. -/
def ofPiece (before after : Option Char) (piece : Text) : Cell :=
  ⟨if piece.head?.any isPad then some ' ' else before, trimPads piece,
    if piece.getLast?.any isPad then some ' ' else after⟩

end Cell

namespace Table

/-- The stretches between the pipes. A pipe with a backslash before it parts nothing. -/
def pieces : Text → List Text
  | [] => [[]]
  | '\\' :: c :: t =>
    if c = '\\' || c = '|' then glue ['\\', c] (pieces t) else glue ['\\'] (pieces (c :: t))
  | c :: t => if c = '|' then [] :: pieces t else glue [c] (pieces t)
where
  glue (front : Text) : List Text → List Text
    | [] => [front]
    | l :: ls => (front ++ l) :: ls

def cellsAfter (before : Option Char) : List Text → List Cell
  | [] => []
  | [piece] => if piece.all isPad then [] else [Cell.ofPiece before none piece]
  | piece :: ps => Cell.ofPiece before (some '|') piece :: cellsAfter (some '|') ps

/-- A row that is one pipe has an empty cell. -/
def cells (row : Text) : List Cell :=
  match trimPads row with
  | ['|'] => [⟨some '|', [], none⟩]
  | '|' :: t => cellsAfter (some '|') (pieces t)
  | t => cellsAfter none (pieces t)

/-- What one cell of the second row says about its column. -/
def align? (piece : Text) : Option (Option Align) :=
  let t := trimPads piece
  let left := t.head? = some ':'
  let t := if left then t.tail else t
  let right := t.getLast? = some ':'
  let t := if right then t.dropLast else t
  if t.isEmpty || t.any (· != '-') then none
  else some (if left && right then some .center else if left then some .left
    else if right then some .right else none)

/-- The columns that a second row gives a table. A row of dashes alone gives none. -/
def delimiter? (row : Text) : Option (List (Option Align)) :=
  if row.any fun c => c == '|' || c == ':' then
    (cells row).mapM fun cell => align? cell.text
  else none

/-- A line that may turn out to be the head of a table: the number of its cells, and whether a pipe
ends it. -/
structure Head where
  cells : Nat
  closed : Bool
deriving DecidableEq, Repr

/-- The head that a line may be, unless it is one pipe. A pipe that is left over from an earlier one
parts off a cell more. -/
def head? (spare : Bool) (row : Text) : Option Head :=
  match trimPads row with
  | ['|'] => none
  | t =>
    let extra := if spare && t.head? = some '|' then 1 else 0
    some ⟨(cells t).length + extra, endsInPipe (pieces t)⟩
where
  endsInPipe (ps : List Text) : Bool := 1 < ps.length && ps.getLast?.any (·.isEmpty)

/-- The columns of the table that a line makes of the one before it. -/
def begins? (head : Head) (row : Text) : Option (List (Option Align)) := do
  let align ← delimiter? row
  guard (align.length = head.cells)
  return align

end Table

end MarkupBridge.Markdown
