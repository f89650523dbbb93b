import MarkupBridge.Proofs.Appending
import MarkupBridge.Proofs.Nesting
import MarkupBridge.Proofs.WellFormed

namespace MarkupBridge

namespace Wiki
open Text

/-- A walk comes to as many items as there are depths. -/
theorem Outline.length_depths (h : Outline es bs) (depth : Nat) :
    (depths depth bs).length = es.length := by
  induction h generalizing depth with
  | nil => simp [depths]
  | start _ _ _ _ ihn ihr =>
    rw [depths_item, depths_ended]
    simp [ihn, ihr]
  | join _ _ _ _ _ ihn ihr =>
    rw [depths_item]
    simp [ihn, ihr]

theorem Outline.length_depths_eq (h : Outline es bs) (depth : Nat) (p : Option Nat) (n k : Nat) :
    (depths depth bs).length = (visitLists p n k bs).length :=
  (h.length_depths depth).trans (h.visited p n k).length.symm

theorem Block.isItem_entry (e : Entry) {nested : List Block} (h : ∀ b ∈ nested, b.IsList) :
    IsItem (e.paragraph ++ nested) := by
  refine ⟨_, nested, rfl, ?_, h⟩
  unfold Entry.paragraph
  split
  · exact .inl rfl
  · exact .inr ⟨_, rfl⟩

/-- What a walk comes to are items, at any depth. -/
theorem Visited.isItem (h : Visited p n k es vs) : ∀ v ∈ vs, Block.IsItem v.contents := by
  induction h with
  | nil => simp
  | item _ hlists _ _ _ ihi iha =>
    have hinside := List.forall_mem_append.mpr ⟨ihi, iha⟩
    exact List.forall_mem_cons.mpr ⟨Block.isItem_entry _ hlists, hinside⟩

end Wiki

namespace Export
open Text Wiki

/-- The text of an item: the line of its paragraph, if it has one. -/
def itemText (r : Resolver) : List Wiki.Block → Text
  | .paragraph [l] :: _ => line r l
  | _ => []

/-- The line of an item that stands in `depth` items. -/
def itemLine (s : Setting) (depth : Nat) (v : Visit) : Text :=
  List.replicate (s.listIndent * depth) ' ' ++ listMarker v.marker
    ++ itemText s.resolver v.contents ++ ['\n']

/-- The lines of items. -/
def itemLines (s : Setting) (depths : List Nat) (vs : List Visit) : Text :=
  (List.zipWith (itemLine s) depths vs).flatten

theorem itemLines_cons (s : Setting) (depth : Nat) (depths : List Nat) (v : Visit)
    (vs : List Visit) :
    itemLines s (depth :: depths) (v :: vs) = itemLine s depth v ++ itemLines s depths vs := rfl

theorem itemLines_append (s : Setting) {depths : List Nat} {vs : List Visit}
    (h : depths.length = vs.length) (depths' : List Nat) (vs' : List Visit) :
    itemLines s (depths ++ depths') (vs ++ vs') =
      itemLines s depths vs ++ itemLines s depths' vs' := by
  rw [itemLines, List.zipWith_append h, List.flatten_append, itemLines, itemLines]

/-- After the line of an item its lists are written as blocks anywhere. -/
theorem itemBlocks_lists (s : Setting) (depth : Nat) {bs : List Wiki.Block}
    (h : ∀ b ∈ bs, b.IsList) (d : Draft) :
    itemBlocks s depth false bs d = blocks s (depth + 1) bs d := by
  induction bs generalizing d with
  | nil => rw [itemBlocks, blocks, if_neg Bool.false_ne_true]
  | cons b bs ih =>
    obtain ⟨⟨marker, items, rfl⟩, hbs⟩ := List.forall_mem_cons.mp h
    rw [itemBlocks, blocks, if_pos (by rfl), if_neg Bool.false_ne_true, ih hbs]

/-- The line of an item ends before its lists, with a text or without. -/
theorem itemBlocks_entry (s : Setting) (depth : Nat) (e : Entry) {nested : List Wiki.Block}
    (h : ∀ b ∈ nested, b.IsList) (d : Draft) :
    itemBlocks s depth true (e.paragraph ++ nested) d = blocks s (depth + 1) nested
      (d.write (itemText s.resolver (e.paragraph ++ nested) ++ ['\n'])) := by
  unfold Entry.paragraph
  split
  · cases nested with
    | nil => rw [List.append_nil, itemBlocks, blocks, if_pos rfl]; rfl
    | cons b bs =>
      obtain ⟨⟨marker, items, rfl⟩, hbs⟩ := List.forall_mem_cons.mp h
      rw [List.nil_append, itemBlocks, blocks, if_pos (by rfl), if_pos rfl,
        itemBlocks_lists s depth hbs]
      rfl
  · rw [List.cons_append, itemBlocks, if_neg (by simp [Block.isList]), block, List.nil_append,
      itemBlocks_lists s depth h]
    rfl

/-- Lists that are written as the lines of their items. -/
def Itemizes (s : Setting) (depth : Nat) (bs : List Wiki.Block) : Prop :=
  ∀ p n k d, blocks s depth bs d = d.write (itemLines s (depths depth bs) (visitLists p n k bs))

namespace Itemizes

variable {s : Setting} {depth : Nat} {marker : Marker} {bs nested : List Wiki.Block}

theorem nil (s : Setting) (depth : Nat) : Itemizes s depth [] := by
  intro p n k d
  simp only [blocks, depths, visitLists]
  exact d.write_nil.symm

theorem ended (h : Itemizes s depth bs) : Itemizes s depth (.list marker [] :: bs) := by
  intro p n k d
  rw [blocks, block, list, h p n (k + 1), depths_ended, visitLists_ended]

/-- An item in front, with its lists. -/
theorem item {e : Entry} {es : List Entry} {items : List (List Wiki.Block)}
    (hnested : Outline es nested) (hinner : Itemizes s (depth + 1) nested)
    (hrest : Itemizes s depth (.list marker items :: bs)) :
    Itemizes s depth (.list marker ((e.paragraph ++ nested) :: items) :: bs) := by
  intro p n k d
  have hlength := hnested.length_depths_eq (depth + 1) (some n) (n + 1) 0
  have hrest := hrest p (n + 1 + (visitLists (some n) (n + 1) 0 nested).length) k
  simp only [blocks, block] at hrest
  rw [blocks, block, list, itemBlocks_entry s depth e hnested.isList, hinner (some n) (n + 1) 0,
    hrest, depths_item, visitLists_item, itemLines_append s (by simp [hlength]), itemLines_cons,
    itemLine]
  simp [Draft.write_write, Setting.indentation]

end Itemizes

theorem itemizes_of_outline (s : Setting) (h : Outline es bs) (depth : Nat) :
    Itemizes s depth bs := by
  induction h generalizing depth with
  | nil => exact .nil s depth
  | start _ hnested _ _ ihn ihr => exact .item hnested (ihn _) (ihr _).ended
  | join _ hnested _ _ _ ihn ihr => exact .item hnested (ihn _) (ihr _)

/-- A list that was read is written as one line for each item, in the order of a walk: as many
levels in as there are items around it, with the marker of its own list and the line of its
paragraph. -/
theorem document_list_ofText {text : Text} {marker : Marker} {items : List (List Wiki.Block)}
    (h : .list marker items ∈ Wiki.Block.ofText text) (s : Setting) :
    (∀ v ∈ visits [.list marker items], Wiki.Block.IsItem v.contents) ∧
      (depths 0 [.list marker items]).length = (visits [.list marker items]).length ∧
      document s [.list marker items] =
        ⟨(List.zipWith (itemLine s) (depths 0 [.list marker items])
          (visits [.list marker items])).flatten, []⟩ := by
  obtain ⟨es, houtline⟩ := exists_outline_of_mem h
  refine ⟨(houtline.visited none 0 0).isItem, houtline.length_depths_eq 0 none 0 0, ?_⟩
  have hlines := itemizes_of_outline s houtline 0 none 0 0 .empty
  rw [blocks, blocks] at hlines
  rw [document, separated, hlines]
  rfl

/-- Two lists in one item, the first with a list inside it, and a text in the outermost item only. -/
theorem document_list_ofText_tasks :
    let text := "* a\n\t*. \n\t\t*v \n\t*x ".toList
    let items : List (List Wiki.Block) := [[.paragraph [[.text ['a']]],
      .list .ordered [[.list .done [[]]]], .list .todo [[]]]]
    .list .unordered items ∈ Wiki.Block.ofText text ∧
      (document ⟨.ofTable [] [], 2⟩ [.list .unordered items]).text =
        "- a\n  1. \n    - [x] \n  - [ ] \n".toList := by
  intro text items
  have hparagraph : Entry.paragraph ⟨0, .unordered, ['a']⟩ = [.paragraph [[.text ['a']]]] := by
    have hspans : Span.ofLine ['a'] = [.text ['a']] := by
      rw [Span.ofLine_eq, tokens_of_standsAlone (by decide) (calm_of_not_mem (by decide)),
        tokens_nil]
      rfl
    rw [Entry.paragraph, if_neg (by decide), hspans]
  have hends : ∀ depth marker, 1 ≤ depth → marker ≠ .todo →
      ListEnds depth depth marker ["\t*x ".toList] := by
    intro depth marker hdepth hmarker
    refine .of_read? (fun e he => ?_) []
    cases he
    exact .inr ((Nat.lt_or_eq_of_le hdepth).imp_right fun he => ⟨he, hmarker.symm⟩)
  have hordered : Takes 1 1 .ordered [] [] ["\t\t*v ".toList, "\t*x ".toList]
      (.list .ordered [[.list .done [[]]]]) ["\t*x ".toList] := by
    have hdone : Takes 2 2 .done [] [] ["\t*x ".toList] (.list .done [[]]) ["\t*x ".toList] :=
      .ended (hends 2 .done (by decide) (by decide))
    refine .nested (e := ⟨2, .done, []⟩) (by decide) (by decide) (by decide) hdone ?_
    exact .ended (hends 1 .ordered (by decide) (by decide))
  have htodo : Takes 1 1 .todo [] [] [] (.list .todo [[]]) [] :=
    .ended fun _ _ _ hnil _ => by cases hnil
  have hlist : Takes 0 0 .unordered [] (Entry.paragraph ⟨0, .unordered, ['a']⟩)
      ["\t*. ".toList, "\t\t*v ".toList, "\t*x ".toList] (.list .unordered items) [] := by
    rw [hparagraph]
    refine .nested (e := ⟨1, .ordered, []⟩) (by decide) (by decide) (by decide) hordered ?_
    refine .nested (e := ⟨1, .todo, []⟩) (by decide) (by decide) (by decide) htodo ?_
    exact .ended fun _ _ _ hnil _ => by cases hnil
  have hread : Chunk.read "* a".toList ["\t*. ".toList, "\t\t*v ".toList, "\t*x ".toList] =
      (.block (.list .unordered items), []) := by
    have hopening : Opening.read? "* a".toList = some (.entry ⟨0, .unordered, ['a']⟩) := by decide
    rw [Chunk.read, hopening]
    simp only [takeList_eq_of_takes (e := ⟨0, .unordered, ['a']⟩) hlist]
  have hmem : .list .unordered items ∈ Wiki.Block.ofText text := by
    rw [Chunk.ofText_of_read (by decide) (by decide) hread]
    exact List.mem_cons_self
  refine ⟨hmem, ?_⟩
  have hlines := (document_list_ofText hmem ⟨.ofTable [] [], 2⟩).2.2
  simp only [items, visits, visitLists, visitItems, depths, itemDepths] at hlines ⊢
  rw [hlines]
  decide

end Export

end MarkupBridge
