import MarkupBridge.Wiki.Outline

namespace MarkupBridge.Wiki
open Text

/-- The first of the lines is no entry, or one that a list leaves to others. -/
def ListEnds (least depth : Nat) (marker : Marker) (ls : List Text) : Prop :=
  ∀ line rest e, ls = line :: rest → Entry.read? line = some e →
    e.depth < least ∨ e.depth < depth ∨ e.depth = depth ∧ e.marker ≠ marker

/-- A list with `items` and then `item` so far takes lines and leaves the others. -/
inductive Takes : (least depth : Nat) → Marker → (items : List (List Block)) →
    (item : List Block) → (ls : List Text) → (taken : Block) → (left : List Text) → Prop
  | ended : ListEnds least depth marker ls →
    Takes least depth marker items item ls (.list marker (items ++ [item])) ls
  | nested : Entry.read? line = some e → least ≤ e.depth → depth < e.depth →
    Takes (depth + 1) e.depth e.marker [] e.paragraph ls b rest →
    Takes least depth marker items (item ++ [b]) rest taken left →
    Takes least depth marker items item (line :: ls) taken left
  | next : Entry.read? line = some e → least ≤ e.depth → e.depth = depth → e.marker = marker →
    Takes least depth marker (items ++ [item]) e.paragraph ls taken left →
    Takes least depth marker items item (line :: ls) taken left

theorem ListEnds.of_read? {line : Text} (h : ∀ e, Entry.read? line = some e →
    e.depth < least ∨ e.depth < depth ∨ e.depth = depth ∧ e.marker ≠ marker) (ls : List Text) :
    ListEnds least depth marker (line :: ls) := by
  intro line rest e hl he
  cases hl
  exact h e he

theorem takeItems_takes (least depth : Nat) (marker : Marker) (items : List (List Block))
    (item : List Block) (ls : List Text) :
    Takes least depth marker items item ls (takeItems least depth marker items item ls).1.1
      (takeItems least depth marker items item ls).1.2 := by
  fun_induction takeItems least depth marker items item ls with
  | case1 => exact .ended (by intro line rest e hl; cases hl)
  | case2 least depth marker items item line ls ended hr =>
    exact .ended (.of_read? (by simp [hr]) ls)
  | case3 least depth marker items item line ls ended e hr hl =>
    exact .ended (.of_read? (by simp [hr, hl]) ls)
  | case4 least depth marker items item line ls ended e hr _ hd =>
    exact .ended (.of_read? (by simp [hr, hd]) ls)
  | case5 least depth marker items item line ls e hr hl _ hd b rest hrest hb r hr' ht ihb iht =>
    rw [hb] at ihb
    rw [ht] at iht
    exact .nested hr (Nat.le_of_not_lt hl) hd ihb iht
  | case6 least depth marker items item line ls ended e hr _ hd hd' hm =>
    refine .ended (.of_read? (fun f hf => ?_) ls)
    rw [hr] at hf
    cases hf
    exact .inr (.inr ⟨by omega, fun he => hm he.symm⟩)
  | case7 least depth marker items item line ls e hr hl hd hd' hm r hr' ht iht =>
    rw [ht] at iht
    exact .next hr (Nat.le_of_not_lt hl) (by omega) (Decidable.not_not.mp hm).symm iht

theorem Takes.suffix (h : Takes least depth marker items item ls taken left) : left <:+ ls := by
  induction h with
  | ended => exact List.suffix_refl _
  | nested _ _ _ _ _ ihb iht => exact (iht.trans ihb).trans (List.suffix_cons _ _)
  | next _ _ _ _ _ ih => exact ih.trans (List.suffix_cons _ _)

/-- What is taken is a list with the marker of its items. -/
theorem Takes.eq_list (h : Takes least depth marker items item ls taken left) :
    ∃ more, taken = .list marker (items ++ more) := by
  induction h with
  | ended => exact ⟨_, rfl⟩
  | nested _ _ _ _ _ _ ih => exact ih
  | next _ _ _ _ _ ih =>
    obtain ⟨more, he⟩ := ih
    exact ⟨_ :: more, by rw [he, List.append_assoc]; rfl⟩

/-- There is one way for a list to take its lines. -/
theorem Takes.unique (h : Takes least depth marker items item ls taken left)
    {taken' : Block} {left' : List Text}
    (h' : Takes least depth marker items item ls taken' left') : taken' = taken ∧ left' = left := by
  induction h generalizing taken' left' with
  | ended hends =>
    cases h' with
    | ended _ => exact ⟨rfl, rfl⟩
    | nested he hleast hdeep _ _ =>
      have := hends _ _ _ rfl he
      omega
    | next he hleast hdepth hmarker _ =>
      rcases hends _ _ _ rfl he with hlt | hlt | ⟨-, hne⟩
      · omega
      · omega
      · exact absurd hmarker hne
  | nested he hleast hdeep _ _ ihb iht =>
    cases h' with
    | ended hends =>
      have := hends _ _ _ rfl he
      omega
    | nested he' _ _ hb ht =>
      rw [he] at he'
      cases he'
      obtain ⟨rfl, rfl⟩ := ihb hb
      exact iht ht
    | next he' _ hdepth _ _ =>
      rw [he] at he'
      cases he'
      omega
  | next he hleast hdepth hmarker _ ih =>
    cases h' with
    | ended hends =>
      rcases hends _ _ _ rfl he with hlt | hlt | ⟨-, hne⟩
      · omega
      · omega
      · exact absurd hmarker hne
    | nested he' _ hdeep _ _ =>
      rw [he] at he'
      cases he'
      omega
    | next he' _ _ _ ht =>
      rw [he] at he'
      cases he'
      exact ih ht

/-- A list leaves a line that is no entry to others, and all lines after it. -/
theorem Takes.append (h : Takes least depth marker items item ls taken left) {rest : List Text}
    (hrest : ∀ l ∈ rest.head?, Entry.read? l = none) :
    Takes least depth marker items item (ls ++ rest) taken (left ++ rest) := by
  induction h with
  | @ended _ _ _ ls _ _ hends =>
    refine .ended fun line after e hline he => ?_
    cases ls with
    | nil =>
      rw [List.nil_append] at hline
      have hnone := hrest line (by rw [hline]; rfl)
      rw [he] at hnone
      cases hnone
    | cons m ms =>
      cases hline
      exact hends _ ms e rfl he
  | nested he hleast hdeep _ _ ihb iht => exact .nested he hleast hdeep ihb iht
  | next he hleast hdepth hmarker _ ih => exact .next he hleast hdepth hmarker ih

/-- A list takes nothing after a line that is no entry. -/
theorem Takes.of_append {ls rest : List Text}
    (h : Takes least depth marker items item (ls ++ rest) taken left)
    (hrest : ∀ l ∈ rest.head?, Entry.read? l = none) :
    ∃ before, left = before ++ rest ∧ Takes least depth marker items item ls taken before := by
  have hfront := takeItems_takes least depth marker items item ls
  obtain ⟨rfl, rfl⟩ := (hfront.append hrest).unique h
  exact ⟨_, rfl, hfront⟩

theorem takeList_eq_of_takes {e : Entry} {ls rest : List Text} {b : Block}
    (h : Takes 0 e.depth e.marker [] e.paragraph ls b rest) : takeList e ls = (b, rest) := by
  obtain ⟨hb, hrest⟩ := h.unique (takeItems_takes 0 e.depth e.marker [] e.paragraph ls)
  exact Prod.ext hb hrest

end MarkupBridge.Wiki
