import MarkupBridge.Proofs.Lists
import MarkupBridge.Proofs.Reading

namespace MarkupBridge.Wiki
open Text

namespace Entry

theorem ne_nil_of_read? {line : Text} {e : Entry} (h : read? line = some e) : line ≠ [] := by
  rintro rfl
  cases h

theorem isBlankLine_of_read? {line : Text} {e : Entry} (h : read? line = some e) :
    isBlankLine line = false := by
  obtain ⟨t, rfl, -⟩ := eq_of_read? h
  have hsign : '*' ∈ e.marker.sign := by cases e.marker <;> exact List.mem_cons_self
  exact isBlankLine_of_mem (List.mem_append_left _ (List.mem_append_right _ hsign)) (by decide)

/-- Entries are read off the lines of a text as they are off the lines it was joined from. -/
theorem map_read?_lines {ls : List Text} {es : List Entry} (hne : ls ≠ [])
    (hbreak : ∀ l ∈ ls, '\n' ∉ l) (h : ls.map read? = es.map some) :
    (lines (joinLines ls)).map read? = es.map some := by
  rw [lines, split_joinLines hne hbreak]
  clear hne hbreak
  induction ls generalizing es with
  | nil => exact h
  | cons l ls ih =>
    cases es with
    | nil => cases h
    | cons e es =>
      obtain ⟨hl, hls⟩ := List.cons.inj h
      cases ls with
      | nil => rw [endLines, if_neg (by simpa using ne_nil_of_read? hl), h]
      | cons m ms =>
        show read? (dropReturn l) :: (endLines (m :: ms)).map read? = _
        rw [read?_dropReturn hl, ih hls]
        rfl

end Entry

/-- Entries that an item of this depth and marker does not share its list with, and that are no
deeper. -/
def Ends (depth : Nat) (marker : Marker) (es : List Entry) : Prop :=
  ∀ f ∈ es.head?, f.depth < depth ∨ f.depth = depth ∧ f.marker ≠ marker

/-- Entries and the lists they make. -/
inductive Outline : List Entry → List Block → Prop
  | nil : Outline [] []
  | start {e : Entry} {children rest : List Entry} {nested bs : List Block} :
    (∀ f ∈ children, e.depth < f.depth) → Outline children nested →
    Ends e.depth e.marker rest → Outline rest bs →
    Outline (e :: children ++ rest) (.list e.marker [e.paragraph ++ nested] :: bs)
  | join {e f : Entry} {children rest : List Entry} {nested bs : List Block}
      {items : List (List Block)} :
    (∀ f ∈ children, e.depth < f.depth) → Outline children nested →
    f.depth = e.depth → f.marker = e.marker → Outline (f :: rest) (.list e.marker items :: bs) →
    Outline (e :: children ++ f :: rest) (.list e.marker ((e.paragraph ++ nested) :: items) :: bs)

/-- Entries that go on with a list as its `items`, whatever item they come after. -/
structure GoesOn (depth : Nat) (marker : Marker) (es : List Entry) (items : List (List Block)) :
    Prop where
  depth_le : ∀ f ∈ es, depth ≤ f.depth
  outline : ∀ {e children nested rest bs}, e.depth = depth → e.marker = marker →
    (∀ f ∈ children, depth < f.depth) → Outline children nested → Ends depth marker rest →
    Outline rest bs → Outline (e :: children ++ (es ++ rest))
      (.list marker ((e.paragraph ++ nested) :: items) :: bs)

theorem GoesOn.nil (depth : Nat) (marker : Marker) : GoesOn depth marker [] [] := by
  refine ⟨by simp, ?_⟩
  rintro e children nested rest bs rfl rfl hdeeper hchildren hends hrest
  exact .start hdeeper hchildren hends hrest

/-- One more item, with its children, in front. -/
theorem GoesOn.cons {e : Entry} {children es : List Entry} {nested : List Block}
    {items : List (List Block)} (hdeeper : ∀ f ∈ children, e.depth < f.depth)
    (hchildren : Outline children nested) (h : GoesOn e.depth e.marker es items) :
    GoesOn e.depth e.marker (e :: children ++ es) ((e.paragraph ++ nested) :: items) := by
  refine ⟨fun f hf => ?_, ?_⟩
  · rcases List.mem_append.mp hf with hf | hf
    · rcases List.mem_cons.mp hf with rfl | hf
      · exact Nat.le_refl _
      · exact Nat.le_of_lt (hdeeper f hf)
    · exact h.depth_le f hf
  · intro d inner nested' rest bs hdepth hmarker hinner hnested hends hrest
    have hnext := h.outline rfl rfl hdeeper hchildren hends hrest
    rw [← hmarker] at hnext ⊢
    rw [List.append_assoc]
    exact .join (fun f hf => hdepth ▸ hinner f hf) hnested hdepth.symm hmarker.symm hnext

theorem eq_cons_of_read? {line : Text} {ls : List Text} {e : Entry} {es : List Entry}
    (he : Entry.read? line = some e) (h : (line :: ls).map Entry.read? = es.map some) :
    ∃ rest, es = e :: rest ∧ ls.map Entry.read? = rest.map some := by
  obtain ⟨f, rest, rfl, hf, hrest⟩ := List.map_eq_cons_iff.mp h.symm
  rw [he] at hf
  cases hf
  exact ⟨rest, rfl, hrest.symm⟩

/-- The entries of the lines that a list finds, parted: children of its item at hand, entries of
further items, and entries it leaves. -/
inductive ListParts (depth : Nat) (marker : Marker) (items : List (List Block))
    (item : List Block) : (taken : Block) → (es rest : List Entry) → Prop
  | mk {children further rest : List Entry} {nested : List Block} {more : List (List Block)} :
    (∀ f ∈ children, depth < f.depth) → Outline children nested →
    GoesOn depth marker further more → Ends depth marker rest →
    ListParts depth marker items item (.list marker (items ++ (item ++ nested) :: more))
      (children ++ (further ++ rest)) rest

theorem Takes.parts (h : Takes least depth marker items item ls taken left)
    (hle : least ≤ depth) {es : List Entry} (hes : ls.map Entry.read? = es.map some) :
    ∃ rest, left.map Entry.read? = rest.map some ∧
      ListParts depth marker items item taken es rest := by
  induction h generalizing es with
  | @ended least depth marker ls items item hends =>
    have hstop : Ends depth marker es := by
      intro f hf
      obtain ⟨es, rfl⟩ := List.head?_eq_some_iff.mp hf
      obtain ⟨line, ls, rfl, hline, -⟩ := List.map_eq_cons_iff.mp hes
      rcases hends line ls f rfl hline with hlt | hlt | heq
      · exact .inl (Nat.lt_of_lt_of_le hlt hle)
      · exact .inl hlt
      · exact .inr heq
    have hparts : ListParts depth marker items item _ _ es :=
      .mk (by simp) .nil (.nil depth marker) hstop
    exact ⟨es, hes, by simpa using hparts⟩
  | @nested line e least depth ls b rest marker items item taken left he _ hdeep _ _ ihb iht =>
    obtain ⟨es, rfl, hls⟩ := eq_cons_of_read? he hes
    obtain ⟨found, hfound, @⟨inner, further, _, _, _, hdeeper, hnested, hfurther, hends⟩⟩ :=
      ihb hdeep hls
    obtain ⟨es, hleft, @⟨children, _, _, _, _, hdeeper', hnested', hfurther', hends'⟩⟩ :=
      iht hle hfound
    have hnext : Ends e.depth e.marker children := by
      intro f hf
      obtain ⟨tail, rfl⟩ := List.head?_eq_some_iff.mp hf
      exact hends f rfl
    -- The new list and the lists after it are the lists inside the item at hand.
    have hlist := hfurther.outline rfl rfl hdeeper hnested hnext hnested'
    have hbelow : ∀ f ∈ e :: inner ++ (further ++ children), depth < f.depth := by
      intro f hf
      rcases List.mem_append.mp hf with hf | hf
      · rcases List.mem_cons.mp hf with rfl | hf
        · exact hdeep
        · exact Nat.lt_trans hdeep (hdeeper f hf)
      · rcases List.mem_append.mp hf with hf | hf
        · exact Nat.lt_of_lt_of_le hdeep (hfurther.depth_le f hf)
        · exact hdeeper' f hf
    have hparts : ListParts depth marker items item _ _ es := .mk hbelow hlist hfurther' hends'
    exact ⟨es, hleft, by simpa using hparts⟩
  | @next line e least depth marker items item ls taken left he _ hdepth hmarker _ ih =>
    obtain ⟨es, rfl, hls⟩ := eq_cons_of_read? he hes
    obtain ⟨es, hleft, hdeeper, hnested, hfurther, hends⟩ := ih hle hls
    subst hdepth hmarker
    have hparts : ListParts e.depth e.marker items item _ _ es :=
      .mk (by simp) .nil (hfurther.cons hdeeper hnested) hends
    exact ⟨es, hleft, by simpa using hparts⟩

/-- What a list takes after its first entry makes an outline together with that entry and with what
comes after. -/
theorem Takes.outline (h : Takes 0 e.depth e.marker [] e.paragraph ls taken left)
    {es : List Entry} (hes : ls.map Entry.read? = es.map some) :
    ∃ rest, left.map Entry.read? = rest.map some ∧
      ∀ bs, Outline rest bs → Outline (e :: es) (taken :: bs) := by
  obtain ⟨rest, hleft, hdeeper, hnested, hfurther, hends⟩ := h.parts (Nat.zero_le _) hes
  exact ⟨rest, hleft, fun bs => hfurther.outline rfl rfl hdeeper hnested hends⟩

/-- Entries alone make an outline of lists. -/
theorem outline_all {ls : List Text} {es : List Entry} (h : ls.map Entry.read? = es.map some) :
    Outline es ((Chunk.all ls).map Chunk.toBlock) := by
  fun_induction Chunk.all ls generalizing es with
  | case1 =>
    rw [List.map_eq_nil_iff.mp h.symm]
    exact .nil
  | case2 line ls hblank _ =>
    obtain ⟨e, es, rfl, he, -⟩ := List.map_eq_cons_iff.mp h.symm
    rw [Entry.isBlankLine_of_read? he.symm] at hblank
    cases hblank
  | case3 line ls _ ih =>
    obtain ⟨e, es, rfl, he, hls⟩ := List.map_eq_cons_iff.mp h.symm
    have hread : Chunk.read line ls = (.block (takeList e ls).1, (takeList e ls).2) := by
      simp only [Chunk.read, Opening.read?_entry he.symm]
    obtain ⟨rest, hrest, houtline⟩ :=
      (takeItems_takes 0 e.depth e.marker [] e.paragraph ls).outline hls.symm
    rw [hread] at ih ⊢
    exact houtline _ (ih hrest)

theorem outline_ofText {ls : List Text} {es : List Entry} (hne : ls ≠ [])
    (hbreak : ∀ l ∈ ls, '\n' ∉ l) (h : ls.map Entry.read? = es.map some) :
    Outline es (Block.ofText (joinLines ls)) := by
  rw [Block.ofText_eq]
  exact outline_all (Entry.map_read?_lines hne hbreak h)

/-- Lines begin with entries, up to a line that is none. -/
theorem exists_leading_entries (ls : List Text) :
    ∃ (lead rest : List Text) (es : List Entry), ls = lead ++ rest ∧
      lead.map Entry.read? = es.map some ∧ ∀ l ∈ rest.head?, Entry.read? l = none := by
  induction ls with
  | nil => exact ⟨[], [], [], rfl, rfl, by simp⟩
  | cons l ls ih =>
    cases hl : Entry.read? l with
    | none => exact ⟨[], l :: ls, [], rfl, rfl, by simpa using hl⟩
    | some e =>
      obtain ⟨lead, rest, es, rfl, hes, hrest⟩ := ih
      exact ⟨l :: lead, rest, e :: es, rfl, by rw [List.map_cons, hl, hes, List.map_cons], hrest⟩

theorem Takes.exists_outline {e : Entry} {ls left : List Text} {taken : Block}
    (h : Takes 0 e.depth e.marker [] e.paragraph ls taken left) : ∃ es, Outline es [taken] := by
  obtain ⟨lead, rest, es, rfl, hes, hrest⟩ := exists_leading_entries ls
  obtain ⟨before, -, h⟩ := h.of_append hrest
  obtain ⟨_, -, hdeeper, hnested, hfurther, -⟩ := h.parts (Nat.zero_le _) hes
  exact ⟨_, hfurther.outline rfl rfl hdeeper hnested (by simp [Ends]) .nil⟩

/-- Whatever is around it, a list is the outline of its own entries. -/
theorem exists_outline_of_mem {text : Text} {marker : Marker} {items : List (List Block)}
    (h : .list marker items ∈ Block.ofText text) : ∃ es, Outline es [.list marker items] := by
  rw [Block.ofText_eq] at h
  obtain ⟨c, hc, he⟩ := List.mem_map.mp h
  generalize lines text = ls at hc
  fun_induction Chunk.all ls with
  | case1 => cases hc
  | case2 line ls _ ih => exact ih hc
  | case3 line ls _ ih =>
    rcases List.mem_cons.mp hc with rfl | hc
    · unfold Chunk.read at he
      split at he
      case h_7 e _ =>
        have htakes := takeItems_takes 0 e.depth e.marker [] e.paragraph ls
        exact he ▸ htakes.exists_outline
      all_goals cases he
    · exact ih hc

end MarkupBridge.Wiki
