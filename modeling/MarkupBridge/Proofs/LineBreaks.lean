import MarkupBridge.Proofs.Nesting
import MarkupBridge.Proofs.Reading

namespace MarkupBridge.Import
open Text Markdown Wiki

theorem Item.count_line (i : Item) : i.line.count '\n' = i.text.count '\n' := by
  have htabs : (List.replicate i.depth '\t').count '\n' = 0 := by
    rw [List.count_replicate]
    rfl
  have hsign : i.marker.sign.count '\n' = 0 := by
    cases i.marker <;> rfl
  rw [Item.line, List.count_append, List.count_append, htabs, hsign,
    List.count_cons_of_ne (by decide), Nat.zero_add]

theorem length_lines_itemLines (is : List Item) : (lines (itemLines is)).length =
    (is.map (·.text)).length + (is.map (·.text)).flatten.count '\n' := by
  have hcount : (is.map Item.line).flatten.count '\n' =
      (is.map (·.text)).flatten.count '\n' := by
    induction is with
    | nil => rfl
    | cons i is ih =>
      rw [List.map_cons, List.flatten_cons, List.count_append, ih, i.count_line, List.map_cons,
        List.flatten_cons, List.count_append]
  rw [itemLines, length_lines_endedLines, hcount, List.length_map, List.length_map]

/-- The line of a heading before its text. -/
def headingSigns (depth : Nat) : Text := List.replicate depth '=' ++ [' ']

theorem not_mem_headingSigns (depth : Nat) : '\n' ∉ headingSigns depth := by
  intro hm
  rcases List.mem_append.mp hm with hm | hm
  · cases List.eq_of_mem_replicate hm
  · cases List.mem_singleton.mp hm

theorem document_heading (depth : Nat) (cs : List Node) :
    (document (.heading depth cs)).text = endedLines
      [headingSigns depth ++ phraseText (draftOf (.heading depth cs)).definitions cs] := by
  rw [document_text rfl, block, inlines_phraseText, endedLines_cons]
  rfl

theorem length_lines_heading (depth : Nat) (t : Text) :
    (lines (endedLines [headingSigns depth ++ t])).length = 1 + t.count '\n' := by
  rw [length_lines_endedLines, List.flatten_singleton, List.count_append,
    List.count_eq_zero.mpr (not_mem_headingSigns depth), Nat.zero_add]
  rfl

theorem dropReturn_headingSigns (depth : Nat) (t : Text) :
    dropReturn (headingSigns depth ++ t) = headingSigns depth ++ dropReturn t := by
  by_cases ht : t = []
  · have hlast : (headingSigns depth).getLast? ≠ some '\r' := by
      rw [headingSigns, List.getLast?_concat]
      decide
    rw [ht, List.append_nil, dropReturn, if_neg hlast]
    exact (List.append_nil _).symm
  · rw [dropReturn_append _ ht]

/-- A heading whose text is on one line is read back, its text trimmed. -/
theorem ofText_heading {depth : Nat} (hdepth : 1 ≤ depth ∧ depth ≤ 6) {t : Text} (h : '\n' ∉ t) :
    Wiki.Block.ofText (endedLines [headingSigns depth ++ t]) =
      [.heading depth [Span.ofLine (trim t)]] := by
  have hbreak : ∀ l ∈ [headingSigns depth ++ t], '\n' ∉ l := by
    intro l hl hm
    rw [List.mem_singleton.mp hl] at hm
    exact (List.mem_append.mp hm).elim (not_mem_headingSigns depth) h
  have hlines : lines (endedLines [headingSigns depth ++ t]) =
      [List.replicate depth '=' ++ ' ' :: dropReturn t] := by
    rw [lines_endedLines_of_unbroken hbreak, List.map_singleton, dropReturn_headingSigns,
      headingSigns, List.append_assoc]
    rfl
  obtain ⟨hblank, hread⟩ := Chunk.read_heading hdepth (dropReturn t) []
  rw [trim_dropReturn] at hread
  exact Chunk.ofText_of_read hlines hblank hread

/-- Lists of items with paragraphs and such lists in them, and headings: all of their text is written
after markers. -/
def IsMarked : Node → Prop
  | .list _ _ _ cs => areOutlined true cs = true
  | .heading depth _ => 1 ≤ depth ∧ depth ≤ 6
  | _ => False

/-- The texts that are written after the markers of a tree. -/
def markedTexts (tree : Node) : List Text :=
  match tree with
  | .list ordered _ _ cs =>
    (itemsAll (draftOf tree).definitions none 0 0 ordered cs).map (·.text)
  | .heading _ cs => [phraseText (draftOf tree).definitions cs]
  | _ => []

/-- Blocks that are the list with its items, or the heading with its text, and nothing more. -/
def IsReadOf (tree : Node) (bs : List Wiki.Block) : Prop :=
  match tree with
  | .list ordered _ _ cs => Keeps (itemsAll (draftOf tree).definitions none 0 0 ordered cs) bs
  | .heading depth cs =>
    bs = [.heading depth [Span.ofLine (trim (phraseText (draftOf tree).definitions cs))]]
  | _ => False

/-- A tree takes one line for each of its markers and one more for each line feed in the texts after
them, and is read back whole if there is none. -/
theorem lines_document_marked {tree : Node} (h : IsMarked tree) :
    (lines (document tree).text).length =
        (markedTexts tree).length + (markedTexts tree).flatten.count '\n' ∧
      ((∀ t ∈ markedTexts tree, '\n' ∉ t) →
        IsReadOf tree (Wiki.Block.ofText (document tree).text)) := by
  cases tree with
  | list ordered start spread cs =>
    have houtlined := outlined_of_areOutlined cs h
    rw [document_list ordered start spread houtlined, markedTexts]
    apply And.intro
    · exact length_lines_itemLines _
    · intro hbreak
      apply (itemsAll_walk _ houtlined none 0 0 ordered).keeps
      intro i hi
      exact hbreak i.text (List.mem_map_of_mem hi)
  | heading depth cs =>
    rw [document_heading, markedTexts, List.flatten_singleton]
    apply And.intro
    · exact length_lines_heading depth _
    · intro hbreak
      exact ofText_heading h (hbreak _ List.mem_cons_self)
  | _ => exact h.elim

/-- A task inside an item, with a line feed in neither text. -/
theorem lines_document_marked_task :
    let tree := .list false none false [.listItem none false [.paragraph [.text ['a']],
      .list true none false [.listItem (some true) false [.paragraph [.strong [.text ['b']]]]]]]
    IsMarked tree ∧ (∀ t ∈ markedTexts tree, '\n' ∉ t) ∧
      (lines (document tree).text).length = 2 ∧
      IsReadOf tree (Wiki.Block.ofText (document tree).text) := by
  intro tree
  have h : IsMarked tree := by
    show areOutlined true tree.children = true
    decide
  have hbreak : ∀ t ∈ markedTexts tree, '\n' ∉ t := by decide
  obtain ⟨hlength, hread⟩ := lines_document_marked h
  exact ⟨h, hbreak, hlength.trans (by decide), hread hbreak⟩

/-- A break in the text of an item begins a line that is no item, and one in the text of a heading
a line that is no heading. -/
theorem lines_document_broken :
    let item : Node := .list false none false
      [.listItem none false [.paragraph [.text ['a'], .lineBreak, .text ['b']]]]
    let heading : Node := .heading 1 [.text ['a', '\n', 'b']]
    IsMarked item ∧ (markedTexts item).length = 1 ∧ (lines (document item).text).length = 2 ∧
      IsMarked heading ∧ (markedTexts heading).length = 1 ∧
      (lines (document heading).text).length = 2 ∧
      ¬ ∀ tree, IsMarked tree → (lines (document tree).text).length = (markedTexts tree).length := by
  intro item heading
  have hitem : IsMarked item := by
    show areOutlined true item.children = true
    decide
  have hheading : IsMarked heading := by
    show 1 ≤ 1 ∧ 1 ≤ 6
    decide
  refine ⟨hitem, by decide, by decide, hheading, by decide, by decide, fun h => ?_⟩
  exact absurd (h item hitem) (by decide)

end MarkupBridge.Import
