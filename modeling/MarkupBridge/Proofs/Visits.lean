import MarkupBridge.Proofs.Outline

namespace MarkupBridge.Wiki
open Text

/-- A block that is a list. -/
def Block.IsList (b : Block) : Prop := ∃ marker items, b = .list marker items

/-- An item as a walk comes to it: the number of the item it stands in, the number of its list among
the lists there, and what the list and the item hold. -/
structure Visit where
  parent : Option Nat
  list : Nat
  marker : Marker
  contents : List Block

mutual

/-- The items of the lists among blocks, each before the items inside it. They are numbered from
`next` on, the lists from `k` on. -/
def visitLists (parent : Option Nat) (next k : Nat) : List Block → List Visit
  | [] => []
  | .list marker items :: bs =>
    let inner := visitItems parent next k marker items
    inner ++ visitLists parent (next + inner.length) (k + 1) bs
  | _ :: bs => visitLists parent next k bs

def visitItems (parent : Option Nat) (next k : Nat) (marker : Marker) :
    List (List Block) → List Visit
  | [] => []
  | item :: items =>
    let inner := visitLists (some next) (next + 1) 0 item
    ⟨parent, k, marker, item⟩ :: inner
      ++ visitItems parent (next + 1 + inner.length) k marker items

end

def visits (bs : List Block) : List Visit := visitLists none 0 0 bs

/-- The number of the nearest entry with fewer tabs; the latest entry comes first. -/
def nearest (depth : Nat) : List Entry → Option Nat
  | [] => none
  | e :: before => if e.depth < depth then some before.length else nearest depth before

/-- The parent of each entry, after the entries `before` them. -/
def parents (before : List Entry) : List Entry → List (Option Nat)
  | [] => []
  | e :: es => nearest e.depth before :: parents (e :: before) es

/-- Each item and the next one with the same parent share a list exactly if depth and marker
agree. -/
def SiblingsAgree : List (Entry × Visit) → Prop
  | [] => True
  | (e, v) :: rows =>
    (∀ r ∈ rows.find? (·.2.parent == v.parent),
      (v.list = r.2.list ↔ e.depth = r.1.depth ∧ e.marker = r.1.marker)) ∧ SiblingsAgree rows

/-- What an item with this text holds: a paragraph of one line first, unless the text is empty, and
nothing else but lists. -/
def Holds (text : Text) (contents : List Block) : Prop :=
  ∃ nested, (∀ b ∈ nested, b.IsList) ∧
    contents = if text = [] then nested else .paragraph [Span.ofLine text] :: nested

/-- Items that are where their entries put them. -/
structure Outlines (es : List Entry) (vs : List Visit) : Prop where
  length : vs.length = es.length
  contents : ∀ r ∈ es.zip vs, r.2.marker = r.1.marker ∧ Holds r.1.text r.2.contents
  parent : vs.map (·.parent) = parents [] es
  siblings : SiblingsAgree (es.zip vs)

/-- A walk over an outline, item by item: the items inside an item come next, then the rest. -/
inductive Visited : (parent : Option Nat) → (next k : Nat) → List Entry → List Visit → Prop
  | nil : Visited p n k [] []
  | item {p : Option Nat} {n k k' : Nat} {e : Entry} {children rest : List Entry}
      {nested : List Block} {inner after : List Visit} :
    (∀ f ∈ children, e.depth < f.depth) → (∀ b ∈ nested, b.IsList) →
    (∀ f ∈ rest.head?, f.depth ≤ e.depth ∧ (k = k' ↔ e.depth = f.depth ∧ e.marker = f.marker)) →
    Visited (some n) (n + 1) 0 children inner →
    Visited p (n + 1 + inner.length) k' rest after →
    Visited p n k (e :: children ++ rest)
      (⟨p, k, e.marker, e.paragraph ++ nested⟩ :: inner ++ after)

theorem holds_paragraph (e : Entry) {nested : List Block} (h : ∀ b ∈ nested, b.IsList) :
    Holds e.text (e.paragraph ++ nested) := by
  refine ⟨nested, h, ?_⟩
  by_cases htext : e.text = []
  · rw [if_pos htext, Entry.paragraph, htext]
    rfl
  · rw [if_neg htext, Entry.paragraph, if_neg (by simpa using htext)]
    rfl

theorem Holds.isList {contents : List Block} (h : Holds [] contents) :
    ∀ b ∈ contents, b.IsList := by
  obtain ⟨nested, hnested, rfl⟩ := h
  exact hnested

theorem Holds.exists_paragraph {text : Text} {contents : List Block} (h : Holds text contents)
    (htext : text ≠ []) :
    ∃ nested, contents = .paragraph [Span.ofLine text] :: nested ∧ ∀ b ∈ nested, b.IsList := by
  obtain ⟨nested, hnested, rfl⟩ := h
  exact ⟨nested, if_neg htext, hnested⟩

theorem visitLists_paragraph (e : Entry) (p : Option Nat) (n k : Nat) (bs : List Block) :
    visitLists p n k (e.paragraph ++ bs) = visitLists p n k bs := by
  unfold Entry.paragraph
  split
  · rfl
  · simp [visitLists]

theorem Outline.isList (h : Outline es bs) : ∀ b ∈ bs, b.IsList := by
  induction h with
  | nil => simp
  | start _ _ _ _ _ ih =>
    intro b hb
    rcases List.mem_cons.mp hb with rfl | hb
    · exact ⟨_, _, rfl⟩
    · exact ih b hb
  | join _ _ _ _ _ _ ih =>
    intro b hb
    rcases List.mem_cons.mp hb with rfl | hb
    · exact ⟨_, _, rfl⟩
    · exact ih b (List.mem_cons_of_mem _ hb)

theorem visitLists_ended (p : Option Nat) (n k : Nat) (marker : Marker) (bs : List Block) :
    visitLists p n k (.list marker [] :: bs) = visitLists p n (k + 1) bs := by
  simp [visitLists, visitItems]

/-- A walk over a list comes to its first item, to those inside that item and to those after it. -/
theorem visitLists_item (p : Option Nat) (n k : Nat) (marker : Marker) (e : Entry)
    (nested : List Block) (items : List (List Block)) (bs : List Block) :
    visitLists p n k (.list marker ((e.paragraph ++ nested) :: items) :: bs) =
      ⟨p, k, marker, e.paragraph ++ nested⟩ :: visitLists (some n) (n + 1) 0 nested ++
        visitLists p (n + 1 + (visitLists (some n) (n + 1) 0 nested).length) k
          (.list marker items :: bs) := by
  simp [visitLists, visitItems, visitLists_paragraph, Nat.add_assoc, Nat.add_comm]

theorem Outline.visited (h : Outline es bs) (p : Option Nat) (n k : Nat) :
    Visited p n k es (visitLists p n k bs) := by
  induction h generalizing p n k with
  | nil =>
    simp only [visitLists]
    exact .nil
  | start hdeeper hnested hends _ ihn ihr =>
    rw [visitLists_item, visitLists_ended]
    refine .item hdeeper hnested.isList (fun f hf => ?_) (ihn _ _ _) (ihr _ _ _)
    rcases hends f hf with hlt | ⟨heq, hne⟩
    · exact ⟨by omega, by omega, by omega⟩
    · exact ⟨by omega, by omega, fun h => absurd h.2.symm hne⟩
  | join hdeeper hnested hdepth hmarker _ ihn ihr =>
    rw [visitLists_item]
    refine .item hdeeper hnested.isList (fun g hg => ?_) (ihn _ _ _) (ihr _ _ _)
    cases hg
    exact ⟨by omega, fun _ => ⟨hdepth.symm, hmarker.symm⟩, fun _ => rfl⟩

namespace Visited

theorem length (h : Visited p n k es vs) : vs.length = es.length := by
  induction h with
  | nil => rfl
  | item _ _ _ _ _ ihi iha => simp [ihi, iha]

theorem contents (h : Visited p n k es vs) :
    ∀ r ∈ es.zip vs, r.2.marker = r.1.marker ∧ Holds r.1.text r.2.contents := by
  induction h with
  | nil => simp
  | item _ hlists _ hinner _ ihi iha =>
    intro r hr
    rw [List.cons_append, List.cons_append, List.zip_cons_cons, List.zip_append hinner.length.symm]
      at hr
    rcases List.mem_cons.mp hr with rfl | hr
    · exact ⟨rfl, holds_paragraph _ hlists⟩
    · exact (List.mem_append.mp hr).elim (ihi r) (iha r)

/-- An item stands outside or in one of the items of the walk. -/
theorem parent_mem (h : Visited p n k es vs) :
    ∀ v ∈ vs, v.parent = p ∨ ∃ q, v.parent = some q ∧ n ≤ q ∧ q < n + vs.length := by
  induction h with
  | nil => simp
  | item _ _ _ _ _ ihi iha =>
    intro v hv
    simp only [List.cons_append, List.length_cons, List.length_append]
    rcases List.mem_cons.mp hv with rfl | hv
    · exact .inl rfl
    rcases List.mem_append.mp hv with hv | hv
    · rcases ihi v hv with hp | ⟨q, hq, hlow, hhigh⟩
      · exact .inr ⟨_, hp, by omega, by omega⟩
      · exact .inr ⟨q, hq, by omega, by omega⟩
    · rcases iha v hv with hp | ⟨q, hq, hlow, hhigh⟩
      · exact .inl hp
      · exact .inr ⟨q, hq, by omega, by omega⟩

end Visited

theorem nearest_append {xs : List Entry} {depth : Nat} (h : ∀ f ∈ xs, depth ≤ f.depth)
    (ys : List Entry) : nearest depth (xs ++ ys) = nearest depth ys := by
  induction xs with
  | nil => rfl
  | cons f xs ih =>
    have hf := h f List.mem_cons_self
    rw [List.cons_append, nearest, if_neg (by omega),
      ih fun g hg => h g (List.mem_cons_of_mem _ hg)]

theorem parents_append (before xs ys : List Entry) :
    parents before (xs ++ ys) = parents before xs ++ parents (xs.reverse ++ before) ys := by
  induction xs generalizing before with
  | nil => rfl
  | cons e xs ih => simp [parents, ih]

/-- Below an item that is less deep, and among items that are no deeper than the first of them, the
nearest item with fewer tabs is the one they stand in. -/
theorem Visited.parents_eq (before : List Entry) (h : Visited p before.length k es vs)
    (hbefore : ∀ f ∈ es, (∀ e ∈ es.head?, f.depth ≤ e.depth) → nearest f.depth before = p) :
    vs.map (·.parent) = parents before es := by
  generalize hn : before.length = n at h
  induction h generalizing before with
  | nil => rfl
  | @item p n k k' e children rest nested inner after hdeeper _ hrest hinner _ ihi iha =>
    have he : nearest e.depth before = p :=
      hbefore e List.mem_cons_self fun f hf => by cases hf; exact Nat.le_refl _
    have hinside : inner.map (·.parent) = parents (e :: before) children := by
      refine ihi _ (fun f hf _ => ?_) (by simp [hn])
      rw [nearest, if_pos (hdeeper f hf), hn]
    -- None of the entries inside this one is an item that a later one stands in.
    have hafter : after.map (·.parent) = parents (children.reverse ++ e :: before) rest := by
      refine iha _ (fun f hf hfirst => ?_) (by simp [hinner.length, hn]; omega)
      have hle : f.depth ≤ e.depth := by
        cases rest with
        | nil => cases hf
        | cons g rest => exact Nat.le_trans (hfirst g rfl) (hrest g rfl).1
      rw [nearest_append fun g hg => ?_, nearest, if_neg (by omega)]
      · refine hbefore f (List.mem_append_right _ hf) fun g hg => ?_
        cases hg
        exact hle
      · have := hdeeper g (List.mem_reverse.mp hg)
        omega
    rw [List.cons_append, List.cons_append, parents, parents_append, List.map_cons,
      List.map_append, he, hinside, hafter]

theorem siblingsAgree_append {xs ys : List (Entry × Visit)} (hxs : SiblingsAgree xs)
    (hys : SiblingsAgree ys) (h : ∀ r ∈ xs, ∀ s ∈ ys, s.2.parent ≠ r.2.parent) :
    SiblingsAgree (xs ++ ys) := by
  induction xs with
  | nil => exact hys
  | cons r xs ih =>
    have hnone : ys.find? (·.2.parent == r.2.parent) = none :=
      List.find?_eq_none.mpr fun s hs => by simpa using h r List.mem_cons_self s hs
    refine ⟨?_, ih hxs.2 fun t ht => h t (List.mem_cons_of_mem _ ht)⟩
    show ∀ s ∈ (xs ++ ys).find? (·.2.parent == r.2.parent), _
    rw [List.find?_append, hnone, Option.or_none]
    exact hxs.1

theorem Visited.siblingsAgree (h : Visited p n k es vs) (hp : ∀ q ∈ p, q < n) :
    SiblingsAgree (es.zip vs) := by
  induction h with
  | nil => trivial
  | @item p n k k' e children rest nested inner after _ _ hrest hinner hafter ihi iha =>
    have hinside : ∀ r ∈ children.zip inner, ∃ q, r.2.parent = some q ∧ n ≤ q ∧
        q < n + 1 + inner.length := by
      intro r hr
      rcases hinner.parent_mem r.2 (List.of_mem_zip hr).2 with hq | ⟨q, hq, hlow, hhigh⟩
      · exact ⟨n, hq, Nat.le_refl _, by omega⟩
      · exact ⟨q, hq, by omega, hhigh⟩
    have hnone : (children.zip inner).find? (·.2.parent == p) = none := by
      refine List.find?_eq_none.mpr fun r hr => ?_
      obtain ⟨q, hq, hlow, -⟩ := hinside r hr
      rw [beq_iff_eq, hq]
      intro he
      have := hp q he.symm
      omega
    rw [List.cons_append, List.cons_append, List.zip_cons_cons, List.zip_append hinner.length.symm]
    refine ⟨?_, siblingsAgree_append (ihi ?_) (iha ?_) fun r hr s hs => ?_⟩
    · rw [List.find?_append, hnone, Option.none_or]
      cases hafter with
      | nil => simp
      | item =>
        -- The first item after those inside this one is the next that stands where this one does.
        intro r hr
        rw [List.cons_append, List.cons_append, List.zip_cons_cons,
          List.find?_cons_of_pos (by exact beq_self_eq_true p)] at hr
        cases hr
        exact (hrest _ rfl).2
    · intro q hq
      cases hq
      omega
    · intro q hq
      have := hp q hq
      omega
    · obtain ⟨q, hq, hlow, hhigh⟩ := hinside r hr
      rcases hafter.parent_mem s.2 (List.of_mem_zip hs).2 with hs | ⟨t, ht, hlow', -⟩
      · rw [hs, hq]
        intro he
        have := hp q he
        omega
      · rw [ht, hq]
        intro he
        cases he
        omega

theorem Outline.outlines (h : Outline es bs) : Outlines es (visits bs) := by
  have hvisited := h.visited none 0 0
  refine ⟨hvisited.length, hvisited.contents, ?_, hvisited.siblingsAgree (by simp)⟩
  exact hvisited.parents_eq [] fun _ _ _ => rfl

/-- Lines of lists are read as lists alone, one item for a line, each where its tabs and its marker
put it. -/
theorem ofText_joinLines {ls : List Text} {es : List Entry} (hne : ls ≠ [])
    (hbreak : ∀ l ∈ ls, '\n' ∉ l) (h : ls.map Entry.read? = es.map some) :
    (∀ b ∈ Block.ofText (joinLines ls), b.IsList) ∧
      Outlines es (visits (Block.ofText (joinLines ls))) :=
  have houtline := outline_ofText hne hbreak h
  ⟨houtline.isList, houtline.outlines⟩

/-- An item without text three tabs down, and a list of two items one tab up again: all three stand
in the first item. -/
theorem ofText_joinLines_jump :
    let ls : List Text := ["* a".toList, "\t\t\t* ".toList, "\t\t*. c".toList, "\t\t*. d".toList]
    let es : List Entry :=
      [⟨0, .unordered, ['a']⟩, ⟨3, .unordered, []⟩, ⟨2, .ordered, ['c']⟩, ⟨2, .ordered, ['d']⟩]
    ls ≠ [] ∧ (∀ l ∈ ls, '\n' ∉ l) ∧ ls.map Entry.read? = es.map some ∧
      (∀ b ∈ Block.ofText (joinLines ls), b.IsList) ∧
      ∃ a b c d, visits (Block.ofText (joinLines ls)) = [a, b, c, d] ∧
        [a, b, c, d].map (·.parent) = [none, some 0, some 0, some 0] ∧
        [a, b, c, d].map (·.marker) = [.unordered, .unordered, .ordered, .ordered] ∧
        b.list ≠ c.list ∧ c.list = d.list ∧
        (∃ nested, a.contents = .paragraph [Span.ofLine ['a']] :: nested ∧
          ∀ b ∈ nested, b.IsList) ∧
        ∀ x ∈ b.contents, x.IsList := by
  intro ls es
  have hne : ls ≠ [] := by decide
  have hbreak : ∀ l ∈ ls, '\n' ∉ l := by decide
  have hread : ls.map Entry.read? = es.map some := by decide
  obtain ⟨hlists, hall⟩ := ofText_joinLines hne hbreak hread
  refine ⟨hne, hbreak, hread, hlists, ?_⟩
  generalize visits (Block.ofText (joinLines ls)) = vs at hall
  match vs, hall.length with
  | [a, b, c, d], _ =>
    have hparent : [a, b, c, d].map (·.parent) = [none, some 0, some 0, some 0] :=
      hall.parent.trans (by decide)
    obtain ⟨-, hb, hc, hd⟩ : a.parent = none ∧ b.parent = some 0 ∧ c.parent = some 0 ∧
        d.parent = some 0 := by simpa using hparent
    have hfirst : a.marker = .unordered ∧ Holds ['a'] a.contents :=
      hall.contents (⟨0, .unordered, ['a']⟩, a) (.head _)
    have hdeepest : b.marker = .unordered ∧ Holds [] b.contents :=
      hall.contents (⟨3, .unordered, []⟩, b) (.tail _ (.head _))
    have hthird : c.marker = .ordered :=
      (hall.contents (⟨2, .ordered, ['c']⟩, c) (.tail _ (.tail _ (.head _)))).1
    have hlast : d.marker = .ordered :=
      (hall.contents (⟨2, .ordered, ['d']⟩, d) (.tail _ (.tail _ (.tail _ (.head _))))).1
    have hsplit : b.list = c.list ↔ 3 = 2 ∧ Marker.unordered = .ordered :=
      hall.siblings.2.1 (⟨2, .ordered, ['c']⟩, c) (by simp [hb, hc])
    have hshared : c.list = d.list ↔ 2 = 2 ∧ Marker.ordered = .ordered :=
      hall.siblings.2.2.1 (⟨2, .ordered, ['d']⟩, d) (by simp [hc, hd])
    refine ⟨a, b, c, d, rfl, hparent, ?_, fun he => ?_, hshared.mpr ⟨rfl, rfl⟩,
      hfirst.2.exists_paragraph (by decide), hdeepest.2.isList⟩
    · simp only [List.map_cons, List.map_nil, hfirst.1, hdeepest.1, hthird, hlast]
    · exact absurd (hsplit.mp he).1 (by decide)

end MarkupBridge.Wiki
