import MarkupBridge.Text.Blank
import MarkupBridge.Text.Line
import MarkupBridge.Wiki.Document

namespace MarkupBridge.Wiki.Row
open Text

/-- Whether a link in double brackets is open from `t` on. -/
def linkOpen (isOpen : Bool) (t : Text) : Bool :=
  if startsWith ['[', '['] t then true else if startsWith [']', ']'] t then false else isOpen

def isDelimiter (prev : Option Char) (c : Char) : Bool := c == '|' || (c == '!' && prev.all isBlank)

/-- The text before the first cell, and the cells. A cell opens at a run of `|`, or of `!` where a
word could start; inside a link in double brackets neither opens one. An escaped character keeps its
backslash. -/
def scan (inLink : Bool) (prev : Option Char) : Text → Text × Row Text
  | [] => ([], [])
  | ['\\'] => (['\\'], [])
  | '\\' :: d :: t =>
    let (text, cells) := scan inLink (some d) t
    ('\\' :: d :: text, cells)
  | c :: t =>
    if !inLink && isDelimiter prev c then
      let (text, cells) := scan inLink (some c) (t.dropWhile (· == c))
      ([], ⟨text, (t.takeWhile (· == c)).length + 1, c == '!'⟩ :: cells)
    else
      let (text, cells) := scan (linkOpen inLink (c :: t)) (some c) t
      (c :: text, cells)
termination_by t => t.length
decreasing_by
  · simp only [List.length_cons]; omega
  · exact Nat.lt_succ_of_le (length_dropWhile_le _ _)
  · simp

/-- A delimiter that ends the line opens no cell. -/
def dropClosing (cells : Row Text) : Row Text :=
  if 1 < cells.length && cells.getLast?.any (isBlankLine ·.contents) then cells.dropLast else cells

/-- The cells of a line that begins with a delimiter. -/
def cells (line : Text) : Row Text := dropClosing (scan false none line).2

/-- A backslash before each character that would open a cell. -/
def escapeAfter (inLink : Bool) (prev : Option Char) : Text → Text
  | [] => []
  | c :: t =>
    let inLink := linkOpen inLink (c :: t)
    if !inLink && isDelimiter prev c then '\\' :: c :: escapeAfter inLink (some c) t
    else c :: escapeAfter inLink (some c) t

/-- A text that opens no cell inside a row. -/
def escape (t : Text) : Text := escapeAfter false none t

def opensRow (line : Text) : Bool := startsWith ['|'] line || startsWith ['!'] line

/-- Further lines go to the last cell. -/
def extendLast (more : List Text) : Row Text → Row Text
  | [] => []
  | [cell] => [{ cell with contents := cell.contents ++ more.flatMap ('\n' :: ·) }]
  | cell :: row => cell :: extendLast more row

/-- A line that opens no row is a row of one cell, should it come before all rows. -/
def ofLine (line : Text) : Row Text := if opensRow line then cells line else [⟨line, 1, false⟩]

/-- The rows of trimmed lines, none of them blank. -/
def gather : List Text → List (Row Text)
  | [] => []
  | line :: ls =>
    (extendLast (ls.takeWhile (!opensRow ·)) (ofLine line)).map
        (fun cell => { cell with contents := trim cell.contents })
      :: gather (ls.dropWhile (!opensRow ·))
termination_by ls => ls.length
decreasing_by exact Nat.lt_succ_of_le (length_dropWhile_le _ _)

/-- The rows of a table's body, each cell with its text. -/
def read (body : Text) : List (Row Text) :=
  gather (((lines body).map trim).filter (!·.isEmpty))

theorem length_scan_le (inLink : Bool) (prev : Option Char) (t : Text) :
    (scan inLink prev t).1.length ≤ t.length ∧
      ∀ cell ∈ (scan inLink prev t).2, cell.contents.length ≤ t.length := by
  fun_induction scan inLink prev t with
  | case1 => simp
  | case2 => simp
  | case3 inLink prev d t text cells h ih =>
    rw [h] at ih
    exact ⟨by simpa using ih.1, fun cell hc => Nat.le_trans (ih.2 cell hc) (by simp; omega)⟩
  | case4 inLink prev c t _ _ _ text cells h ih =>
    rw [h] at ih
    have hd := length_dropWhile_le (· == c) t
    refine ⟨by simp, fun cell hc => ?_⟩
    simp only [List.length_cons]
    rcases List.mem_cons.1 hc with rfl | hc
    · have := ih.1; simp only at this ⊢; omega
    · have := ih.2 cell hc; omega
  | case5 inLink prev c t _ _ _ text cells h ih =>
    rw [h] at ih
    exact ⟨by simpa using ih.1, fun cell hc => Nat.le_succ_of_le (ih.2 cell hc)⟩

theorem length_cells_le {line : Text} {cell : Cell Text} (h : cell ∈ cells line) :
    cell.contents.length ≤ line.length := by
  unfold cells dropClosing at h
  split at h
  · exact (length_scan_le _ _ _).2 cell (List.dropLast_subset _ h)
  · exact (length_scan_le _ _ _).2 cell h

theorem length_ofLine_le {line : Text} {cell : Cell Text} (h : cell ∈ ofLine line) :
    cell.contents.length ≤ line.length := by
  unfold ofLine at h
  split at h
  · exact length_cells_le h
  · simp_all

theorem length_flatMap_newline (ls : List Text) : (ls.flatMap ('\n' :: ·)).length = weight ls := by
  induction ls with
  | nil => rfl
  | cons l ls ih => simp only [List.flatMap_cons, List.length_append, ih, weight_cons,
      List.length_cons]

theorem length_extendLast_le {row : Row Text} {more : List Text} {n : Nat}
    (h : ∀ cell ∈ row, cell.contents.length ≤ n) :
    ∀ cell ∈ extendLast more row, cell.contents.length ≤ n + weight more := by
  fun_induction extendLast more row with
  | case1 => simp
  | case2 cell =>
    have := h cell (by simp)
    simp only [List.mem_singleton, forall_eq, List.length_append, length_flatMap_newline]
    omega
  | case3 cell row _ ih =>
    intro x hx
    rcases List.mem_cons.1 hx with rfl | hx
    · have := h x (by simp); omega
    · exact ih (fun c hc => h c (by simp [hc])) x hx

theorem weight_takeWhile_add (p : Text → Bool) (ls : List Text) :
    weight (ls.takeWhile p) + weight (ls.dropWhile p) = weight ls := by
  rw [← weight_append, List.takeWhile_append_dropWhile]

theorem length_gather_lt {ls : List Text} {row : Row Text} (hr : row ∈ gather ls)
    {cell : Cell Text} (hc : cell ∈ row) : cell.contents.length < weight ls := by
  fun_induction gather ls with
  | case1 => simp at hr
  | case2 line ls ih =>
    have hw := weight_takeWhile_add (!opensRow ·) ls
    rw [weight_cons]
    rcases List.mem_cons.1 hr with rfl | hr
    · obtain ⟨c, hm, rfl⟩ := List.mem_map.1 hc
      have := length_extendLast_le (fun _ => length_ofLine_le) c hm
      have := length_trim_le c.contents
      show (trim c.contents).length < _
      omega
    · have := ih hr
      omega

theorem weight_map_trim_le (ls : List Text) :
    weight ((ls.map trim).filter (!·.isEmpty)) ≤ weight ls := by
  induction ls with
  | nil => simp
  | cons l ls ih =>
    have := length_trim_le l
    simp only [List.map_cons, List.filter_cons, weight_cons]
    split
    · rw [weight_cons]; omega
    · omega

/-- A cell is no longer than the body it stands in. -/
theorem length_read_le {body : Text} {row : Row Text} (hr : row ∈ read body) {cell : Cell Text}
    (hc : cell ∈ row) : cell.contents.length ≤ body.length := by
  have h₁ := length_gather_lt hr hc
  have h₂ := weight_map_trim_le (lines body)
  have h₃ := weight_lines_le body
  omega

end MarkupBridge.Wiki.Row
