import MarkupBridge.Proofs.Braces
import MarkupBridge.Proofs.Framing
import MarkupBridge.Proofs.Rows

namespace MarkupBridge

namespace Wiki
open Text

/-- Lines with matched braces are the body of a table that a line closes. -/
theorem Chunk.read_table {line : Text} {caption : Option Text}
    (hline : Opening.read? line = some (.table caption)) {ls : List Text}
    (hbreak : ∀ l ∈ ls, '\n' ∉ l) (h : Matched (endedLines ls)) (rest : List Text) :
    read line (ls ++ ['\x7d'] :: rest) =
      (.table caption (Row.read ('\n' :: endedLines ls)), rest) := by
  simp only [read, hline, bracedBody_closed hbreak h]

end Wiki

namespace Import
open Text Markdown Wiki

/-- A table of texts alone. -/
def textTable (align : List (Option Align)) (texts : List (List Text)) : Node :=
  .table align (texts.map fun row => .tableRow (row.map fun t => .tableCell [.text t]))

/-- Whether the column has an alignment of its own. -/
def isAligned (align : List (Option Align)) (column : Nat) : Bool :=
  (align[column]?.getD none).isSome

/-- The cells that a row of texts is written with. -/
def writtenRow (align : List (Option Align)) (texts : List Text) : List (Bool × Text) :=
  texts.mapIdx fun i t => (isAligned align i, trim t)

theorem writtenRow_cons (align : List (Option Align)) (t : Text) (ts : List Text) :
    writtenRow align (t :: ts) =
      ((align.headD none).isSome, trim t) :: writtenRow align.tail ts := by
  have htail : ∀ i, isAligned align (i + 1) = isAligned align.tail i := by
    intro i
    rw [isAligned, isAligned, List.getElem?_tail]
  have hhead : isAligned align 0 = (align.headD none).isSome := by
    cases align <;> rfl
  rw [writtenRow, List.mapIdx_cons, hhead]
  simp only [htail]
  rfl

/-- Texts that make a row: there is one, and each can have a cell to itself. -/
def IsRow (texts : List Text) : Prop := texts ≠ [] ∧ ∀ t ∈ texts, Row.IsCellText t

instance : DecidablePred IsRow := fun _ => inferInstanceAs (Decidable (_ ∧ _))

theorem IsRow.isWritten {texts : List Text} (h : IsRow texts) (align : List (Option Align)) :
    ∀ cell ∈ writtenRow align texts, Row.IsWritten cell.2 := by
  intro cell hcell
  obtain ⟨i, hi, rfl⟩ := List.mem_mapIdx.mp hcell
  exact (h.2 _ (List.getElem_mem hi)).trim

theorem IsRow.writtenRow_ne_nil {texts : List Text} (h : IsRow texts)
    (align : List (Option Align)) : writtenRow align texts ≠ [] := by
  intro hnil
  exact h.1 (List.mapIdx_eq_nil_iff.mp hnil)

theorem cells_eq_written (align : List (Option Align)) (cs : List (List Node)) (d : Draft) :
    cells align (cs.map .tableCell) d =
      (((writtenRow align (cs.map (phraseText d.definitions))).map Row.written).flatMap
        (· ++ [' ']), d) := by
  induction cs generalizing align with
  | nil => rfl
  | cons c cs ih =>
    have hcapture : d.capture (inlines c) = (phraseText d.definitions c, d) :=
      (inlines_frames (l := .inline) c).capture_eq d
    rw [List.map_cons, cells, hcapture]
    simp only [ih, List.map_cons, writtenRow_cons, List.flatMap_cons]
    rfl

theorem cells_eq_writtenRow (align : List (Option Align)) (texts : List Text) (d : Draft) :
    cells align (texts.map fun t => .tableCell [.text t]) d =
      (((writtenRow align texts).map Row.written).flatMap (· ++ [' ']), d) := by
  have hcells := cells_eq_written align (texts.map fun t => [.text t]) d
  have htexts : (texts.map fun t => [.text t]).map (phraseText d.definitions) = texts := by
    rw [List.map_map]
    exact List.map_id texts
  rwa [List.map_map, htexts] at hcells

/-- The line that a row is written on. -/
def rowLine (align : List (Option Align)) (texts : List Text) : Text :=
  Row.line (writtenRow align texts)

/-- The blank after the last cell is trimmed off. -/
theorem trimEnd_cells {texts : List Text} (h : IsRow texts) (align : List (Option Align)) :
    trimEnd (((writtenRow align texts).map Row.written).flatMap (· ++ [' '])) =
      rowLine align texts :=
  Row.trimEnd_row (h.isWritten align)

theorem rows_eq (align : List (Option Align)) {texts : List (List Text)}
    (h : ∀ row ∈ texts, IsRow row) (d : Draft) :
    rows align (texts.map fun row => .tableRow (row.map fun t => .tableCell [.text t])) d =
      d.write (endedLines (texts.map (rowLine align))) := by
  induction texts generalizing d with
  | nil => exact (Draft.write_nil d).symm
  | cons row texts ih =>
    have htexts : ∀ r ∈ texts, IsRow r := fun r hr => h r (List.mem_cons_of_mem row hr)
    rw [List.map_cons, rows, cells_eq_writtenRow]
    simp only [trimEnd_cells (h row List.mem_cons_self)]
    rw [ih htexts, Draft.write_write, List.map_cons, endedLines_cons, List.append_assoc]
    rfl

/-- The lines of a table. -/
def tableLines (align : List (Option Align)) (texts : List (List Text)) : List Text :=
  "table \x7b".toList :: (texts.map (rowLine align) ++ [['\x7d']])

section
variable (align : List (Option Align)) {texts : List (List Text)} (h : ∀ row ∈ texts, IsRow row)
include h

theorem document_textTable :
    (document (textTable align texts)).text = endedLines (tableLines align texts) := by
  rw [document_text rfl, textTable, block, rows_eq align h, Draft.write_write, Draft.write_write,
    tableLines, endedLines_cons, endedLines_append, Draft.write_text]
  rfl

theorem isLine_tableLines : ∀ l ∈ tableLines align texts, IsLine l := by
  intro l hl
  rcases List.mem_cons.mp hl with rfl | hl
  · exact ⟨by decide, by decide⟩
  rcases List.mem_append.mp hl with hl | hl
  · obtain ⟨row, hrow, rfl⟩ := List.mem_map.mp hl
    exact Row.isLine_line ((h row hrow).isWritten align)
  · rw [List.mem_singleton.mp hl]
    exact ⟨by decide, by decide⟩

theorem not_mem_rowLines :
    ∀ l ∈ texts.map (rowLine align), '\n' ∉ l ∧ '\x7b' ∉ l ∧ '\x7d' ∉ l := by
  intro l hl
  obtain ⟨row, hrow, rfl⟩ := List.mem_map.mp hl
  have hwritten := (h row hrow).isWritten align
  exact ⟨Row.not_mem_line hwritten (by decide) (by decide),
    Row.not_mem_line hwritten (by decide) (by decide),
    Row.not_mem_line hwritten (by decide) (by decide)⟩

theorem read_rowLines : Row.read ('\n' :: endedLines (texts.map (rowLine align))) =
    texts.map fun row => (writtenRow align row).map fun cell =>
      ⟨Row.escape cell.2, 1, cell.1⟩ := by
  have hrows : ∀ row ∈ texts.map (writtenRow align),
      row ≠ [] ∧ ∀ cell ∈ row, Row.IsWritten cell.2 := by
    intro r hr
    obtain ⟨row, hrow, rfl⟩ := List.mem_map.mp hr
    exact ⟨(h row hrow).writtenRow_ne_nil align, (h row hrow).isWritten align⟩
  have hread := Row.read_lines hrows
  rw [List.map_map, List.map_map] at hread
  exact hread

end

/-- The document in each cell is the text the cell was written for. -/
theorem ofText_cells {row : List Text} (h : IsRow row) (align : List (Option Align)) :
    ((writtenRow align row).map fun cell => (⟨Row.escape cell.2, 1, cell.1⟩ : Cell Text)).map
        (fun cell => { cell with contents := Wiki.Block.ofText cell.contents }) =
      row.mapIdx fun i t => ⟨[.paragraph [[.text (trim t)]]], 1, isAligned align i⟩ := by
  refine List.ext_getElem (by simp [writtenRow]) fun i _ hi => ?_
  rw [List.length_mapIdx] at hi
  have hcell := Row.ofText_escape (h.2 _ (List.getElem_mem hi)).trim
  simp only [writtenRow, List.getElem_map, List.getElem_mapIdx, hcell]

/-- A table of texts is read from the wiki cell by cell as it was written. The cells of an aligned
column are its headers. -/
theorem ofText_textTable (align : List (Option Align)) {texts : List (List Text)}
    (h : ∀ row ∈ texts, IsRow row) :
    Wiki.Block.ofText (document (textTable align texts)).text =
      [.table none (texts.map fun row => row.mapIdx fun i t =>
        ⟨[.paragraph [[.text (trim t)]]], 1, isAligned align i⟩)] := by
  have hopening : Opening.read? "table \x7b".toList = some (.table none) := by decide
  have hlines := not_mem_rowLines align h
  have hmatched := matched_endedLines fun l hl => .of_not_mem (hlines l hl).2.1 (hlines l hl).2.2
  have hread := Chunk.read_table hopening (fun l hl => (hlines l hl).1) hmatched []
  rw [read_rowLines align h] at hread
  rw [document_textTable align h, Wiki.Block.ofText_eq,
    lines_endedLines (isLine_tableLines align h), tableLines, Chunk.map_all (by decide) hread,
    Chunk.all_nil, Chunk.toBlock, List.map_map, Function.comp_def,
    List.map_congr_left fun row hrow => ofText_cells (h row hrow) align]
  rfl

/-- Marks of cells at the ends of words, doubled and next to blanks, in two rows of which the second
has a column more. -/
theorem ofText_textTable_marks :
    (∀ row ∈ [["!a|b !c".toList], ["|| !! ".toList, "a!".toList]], IsRow row) ∧
      Wiki.Block.ofText (document (textTable [none, some .left]
          [["!a|b !c".toList], ["|| !! ".toList, "a!".toList]])).text =
        [.table none [[⟨[.paragraph [[.text "!a|b !c".toList]]], 1, false⟩],
          [⟨[.paragraph [[.text "|| !!".toList]]], 1, false⟩,
            ⟨[.paragraph [[.text "a!".toList]]], 1, true⟩]]] :=
  have h : ∀ row ∈ [["!a|b !c".toList], ["|| !! ".toList, "a!".toList]], IsRow row := by decide
  ⟨h, ofText_textTable [none, some .left] h⟩

theorem dropLast_writtenRow (align : List (Option Align)) (texts : List Text) :
    (writtenRow align texts).dropLast = writtenRow align texts.dropLast := by
  rcases List.eq_nil_or_concat texts with rfl | ⟨texts, t, rfl⟩
  · rfl
  · rw [List.concat_eq_append, writtenRow, List.mapIdx_concat, List.dropLast_concat,
      List.dropLast_concat]
    rfl

theorem mem_writtenRow {align : List (Option Align)} {texts : List Text} {cell : Bool × Text}
    (h : cell ∈ writtenRow align texts) : ∃ t ∈ texts, cell.2 = trim t := by
  obtain ⟨i, hi, rfl⟩ := List.mem_mapIdx.mp h
  exact ⟨_, List.getElem_mem hi, rfl⟩

theorem sealed_writtenRow (align : List (Option Align)) {texts : List Text}
    (hescaped : ∀ t ∈ texts, (Row.linkAfter? (trim t)).isSome = true)
    (hclosed : ∀ t ∈ texts.dropLast, Row.linkAfter? (trim t) = some false) :
    Row.Sealed (writtenRow align texts) := by
  refine ⟨fun cell hcell => ?_, fun cell hcell => ?_, fun cell hcell => ?_⟩
  · obtain ⟨t, -, ht⟩ := mem_writtenRow hcell
    rw [ht, trim_trim]
  · obtain ⟨t, htexts, ht⟩ := mem_writtenRow hcell
    rw [ht]
    exact hescaped t htexts
  · rw [dropLast_writtenRow] at hcell
    obtain ⟨t, htexts, ht⟩ := mem_writtenRow hcell
    rw [ht]
    exact hclosed t htexts

/-- The line of a row is read as its cells, each with its text escaped, if none of the texts opens a
cell in spite of that and none but the last leaves a link open. A last cell without text is dropped
if another comes before it. -/
theorem cells_rendered (align : List (Option Align)) (d : Draft) {cs : List (List Node)}
    (hescaped : ∀ c ∈ cs, (Row.linkAfter? (trim (phraseText d.definitions c))).isSome = true)
    (hclosed : ∀ c ∈ cs.dropLast,
      Row.linkAfter? (trim (phraseText d.definitions c)) = some false) :
    (Row.cells (trimEnd (cells align (cs.map .tableCell) d).1)).map Row.trimmed =
      (Row.kept (writtenRow align (cs.map (phraseText d.definitions)))).map fun cell =>
        ⟨Row.escape cell.2, 1, cell.1⟩ := by
  have hsealed : Row.Sealed (writtenRow align (cs.map (phraseText d.definitions))) := by
    apply sealed_writtenRow
    · intro t ht
      obtain ⟨c, hc, rfl⟩ := List.mem_map.mp ht
      exact hescaped c hc
    · intro t ht
      rw [← List.map_dropLast] at ht
      obtain ⟨c, hc, rfl⟩ := List.mem_map.mp ht
      exact hclosed c hc
  rw [cells_eq_written]
  exact Row.cells_trimEnd hsealed

/-- A mark at the start of a word, a backslash at the end, a bar in a link and one behind two
backslashes, and no text in the last cell. -/
theorem cells_rendered_marks :
    let cs : List (List Node) := [[.text ['!', 'a', '|', 'b']], [.text ['c', '\\']],
      [.link ⟨['d'], none⟩ [.text ['e']]], [.text ['\\', '\\', '|']], []]
    (∀ c ∈ cs, (Row.linkAfter? (trim (phraseText [] c))).isSome = true) ∧
      (∀ c ∈ cs.dropLast, Row.linkAfter? (trim (phraseText [] c)) = some false) ∧
      (Row.cells (trimEnd (cells [none, some .left] (cs.map .tableCell) .empty).1)).map
          Row.trimmed =
        [⟨['\\', '!', 'a', '\\', '|', 'b'], 1, false⟩, ⟨['c', '\\'], 1, true⟩,
          ⟨['[', '[', 'd', ' ', '|', ' ', 'e', ']', ']'], 1, false⟩,
          ⟨['\\', '\\', '\\', '|'], 1, false⟩] := by
  intro cs
  have hescaped : ∀ c ∈ cs, (Row.linkAfter? (trim (phraseText [] c))).isSome = true := by decide
  have hclosed : ∀ c ∈ cs.dropLast, Row.linkAfter? (trim (phraseText [] c)) = some false := by
    decide
  refine ⟨hescaped, hclosed, ?_⟩
  rw [cells_rendered [none, some .left] .empty hescaped hclosed]
  rfl

/-- How many cells the line of a row of texts is read as. -/
def cellCount (texts : List Text) : Nat :=
  (Row.cells (trimEnd (cells [] (texts.map fun t => .tableCell [.text t]) .empty).1)).length

/-- The cell of an empty text at the end is lost, a bar behind a backslash begins a cell, as does
one in brackets of which the first are escaped, and a link that is left open takes in the next
cell. -/
theorem cells_rendered_lost :
    cellCount [['a'], []] = 1 ∧ cellCount [['\\', '|', 'a']] = 2 ∧
      cellCount [['\\', '[', '[', '|', ']', ']']] = 2 ∧ cellCount [['[', '['], ['a']] = 1 ∧
      ¬ ∀ (align : List (Option Align)) (d : Draft) (cs : List (List Node)), cs ≠ [] →
        (Row.cells (trimEnd (cells align (cs.map .tableCell) d).1)).map Row.trimmed =
          (writtenRow align (cs.map (phraseText d.definitions))).map fun cell =>
            ⟨Row.escape cell.2, 1, cell.1⟩ := by
  have hempty : cellCount [['a'], []] = 1 := by decide +kernel
  refine ⟨hempty, by decide +kernel, by decide +kernel, by decide +kernel, fun h => ?_⟩
  have hcells := h [] .empty [[.text ['a']], [.text []]] (List.cons_ne_nil _ _)
  have hread := congrArg List.length hcells
  rw [List.length_map] at hread
  exact absurd (hempty.symm.trans hread) (by decide)

end Import
end MarkupBridge
