import MarkupBridge.Proofs.Openings
import MarkupBridge.Wiki.Reader

namespace MarkupBridge.Wiki
open Text

/-- The block of a chunk, its inner documents read. -/
def Chunk.toBlock : Chunk → Block
  | .block b => b
  | .quote contents => .quote (Block.ofText contents)
  | .table caption rows =>
    .table caption (rows.map fun row => row.map fun cell =>
      { cell with contents := Block.ofText cell.contents })
  | .image layout images =>
    .image layout (images.map fun e => { e with description := Block.ofText e.description })

theorem Block.ofText_eq (text : Text) :
    Block.ofText text = (Chunk.all (lines text)).map Chunk.toBlock := by
  rw [Block.ofText, ← List.attach_map_val (f := Chunk.toBlock)]
  refine List.map_congr_left ?_
  rintro ⟨c, hc⟩ -
  cases c with
  | block b => rfl
  | quote contents => rfl
  | table caption rows => simp [Chunk.toBlock]
  | image layout images => simp [Chunk.toBlock]

theorem Block.ofText_nil : Block.ofText [] = [] := by
  have hlines : lines [] = [] := rfl
  rw [ofText_eq, hlines, Chunk.all, List.map_nil]

/-- Lines that begin with an empty one, if there are any. -/
def Parted (ls : List Text) : Prop := ∀ l ∈ ls.head?, l = []

theorem Parted.nil : Parted [] := by
  intro l hl
  cases hl

theorem Parted.stops {p : Text → Bool} {ls : List Text} (h : Parted ls) (hp : p [] = false) :
    ∀ l ∈ ls.head?, p l = false := by
  intro l hl
  rw [h l hl]
  exact hp

theorem Parted.takeWhile_append {p : Text → Bool} {ls rest : List Text} (h : Parted rest)
    (hp : p [] = false) (hls : ∀ l ∈ ls, p l = true) :
    (ls ++ rest).takeWhile p = ls ∧ (ls ++ rest).dropWhile p = rest :=
  takeWhile_append_of_head? hls (h.stops hp)

namespace Chunk

@[simp] theorem all_nil : all [] = [] := by rw [all]

theorem all_blank {line : Text} (h : isBlankLine line = true) (ls : List Text) :
    all (line :: ls) = all ls := by rw [all, if_pos h]

theorem all_cons {line : Text} (h : isBlankLine line = false) (ls : List Text) :
    all (line :: ls) = (read line ls).1 :: all (read line ls).2 := by
  rw [all, if_neg (by simp [h])]

/-- A block, and the blocks of the lines that its chunk leaves. -/
theorem map_all {line : Text} {ls rest : List Text} {c : Chunk} (hline : isBlankLine line = false)
    (h : read line ls = (c, rest)) : (all (line :: ls)).map toBlock =
      c.toBlock :: (all rest).map toBlock := by
  rw [all_cons hline, h]
  rfl

/-- A chunk that leaves no line is the whole document. -/
theorem ofText_of_read {text line : Text} {ls : List Text} {c : Chunk}
    (hlines : lines text = line :: ls) (hline : isBlankLine line = false)
    (h : read line ls = (c, [])) : Block.ofText text = [c.toBlock] := by
  rw [Block.ofText_eq, hlines, map_all hline h, all_nil, List.map_nil]

/-- A line that one chunk takes is the whole document. -/
theorem ofText_line {line : Text} {c : Chunk} (hline : IsLine line)
    (hblank : isBlankLine line = false) (h : read line [] = (c, [])) :
    Block.ofText (line ++ ['\n']) = [c.toBlock] := by
  have hlines : lines (endedLines [line]) = [line] :=
    lines_endedLines fun l hl => List.mem_singleton.mp hl ▸ hline
  rw [endedLines_cons, endedLines_nil] at hlines
  exact ofText_of_read hlines hblank h

theorem read_paragraph {l : Text} {ls rest : List Text} (hl : Opening.startsBlock l = false)
    (hls : ∀ l ∈ ls, inParagraph l = true) (hrest : ∀ l ∈ rest.head?, inParagraph l = false) :
    read l (ls ++ rest) =
      (.block (.paragraph ((l :: ls).map fun l => Span.ofLine (trim l))), rest) := by
  have hread := Opening.read?_eq_none hl
  obtain ⟨htake, hdrop⟩ := takeWhile_append_of_head? hls hrest
  simp only [read, hread, htake, hdrop]

theorem read_heading {depth : Nat} (h : 1 ≤ depth ∧ depth ≤ 6) (t : Text) (rest : List Text) :
    isBlankLine (List.replicate depth '=' ++ ' ' :: t) = false ∧
      read (List.replicate depth '=' ++ ' ' :: t) rest =
        (.block (.heading depth [Span.ofLine (trim t)]), rest) := by
  constructor
  · have hmem : '=' ∈ List.replicate depth '=' ++ ' ' :: t :=
      List.mem_append_left _ (List.mem_replicate.mpr ⟨by omega, rfl⟩)
    exact isBlankLine_of_mem hmem (by decide)
  · simp only [read, Opening.read?_heading h]

theorem read_fence {lang : Option Text}
    (h : ∀ t ∈ lang, Opening.IsLanguage t) {ls : List Text}
    (hls : ∀ l ∈ ls, Opening.isFence l = false) (rest : List Text) :
    read ("\x60\x60\x60".toList ++ lang.getD []) (ls ++ "\x60\x60\x60".toList :: rest) =
      (.block (.code lang (endedLines ls)), rest) := by
  have hopen : ∀ l ∈ ls, (!Opening.isFence l) = true := fun l hl => by simp [hls l hl]
  simp only [read, Opening.read?_fence h, List.takeWhile_append_of_pos hopen,
    List.dropWhile_append_of_pos hopen]
  rw [List.takeWhile_cons_of_neg (by decide), List.dropWhile_cons_of_neg (by decide),
    List.append_nil]
  rfl

theorem read_quote (t : Text) {ls : List Text} (hls : ∀ l ∈ ls, Opening.isQuote l = true)
    {rest : List Text} (hrest : Parted rest) : read ('>' :: t) (ls ++ rest) =
      (.quote (joinLines (('>' :: t) :: ls |>.map unquote)), rest) := by
  obtain ⟨htake, hdrop⟩ := hrest.takeWhile_append (by decide) hls
  simp only [read, Opening.read?_quote, htake, hdrop]

end Chunk

end MarkupBridge.Wiki
