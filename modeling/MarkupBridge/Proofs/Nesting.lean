import MarkupBridge.Proofs.Framing
import MarkupBridge.Proofs.Visits

namespace MarkupBridge

namespace Wiki
open Text

mutual

/-- How many items each item of the lists among blocks stands in, in the order of a walk; there are
`depth` of them around the blocks. -/
def depths (depth : Nat) : List Block → List Nat
  | [] => []
  | .list _ items :: bs => itemDepths depth items ++ depths depth bs
  | _ :: bs => depths depth bs

def itemDepths (depth : Nat) : List (List Block) → List Nat
  | [] => []
  | item :: items => depth :: depths (depth + 1) item ++ itemDepths depth items

end

theorem depths_paragraph (e : Entry) (depth : Nat) (bs : List Block) :
    depths depth (e.paragraph ++ bs) = depths depth bs := by
  unfold Entry.paragraph
  split
  · rfl
  · simp [depths]

/-- Entries of which the first has `bound` tabs at most, and each one tab more than the one before
it at most. -/
def Steps (bound : Nat) : List Entry → Prop
  | [] => True
  | e :: es => e.depth ≤ bound ∧ Steps (e.depth + 1) es

namespace Steps

theorem mono {bound bound' : Nat} {es : List Entry} (hle : bound ≤ bound') (h : Steps bound es) :
    Steps bound' es := by
  cases es with
  | nil => trivial
  | cons e es => exact ⟨Nat.le_trans h.1 hle, h.2⟩

/-- Steps may go down to where they began at any time. -/
theorem append {depth bound : Nat} {es fs : List Entry} (hle : depth ≤ bound)
    (hes : Steps bound es) (hdepth : ∀ e ∈ es, depth ≤ e.depth) (hfs : Steps depth fs) :
    Steps bound (es ++ fs) := by
  induction es generalizing bound with
  | nil => exact hfs.mono hle
  | cons e es ih =>
    have he := hdepth e List.mem_cons_self
    exact ⟨hes.1, ih (by omega) hes.2 fun f hf => hdepth f (List.mem_cons_of_mem e hf)⟩

theorem left {bound : Nat} {es fs : List Entry} (h : Steps bound (es ++ fs)) : Steps bound es := by
  induction es generalizing bound with
  | nil => trivial
  | cons e es ih => exact ⟨h.1, ih h.2⟩

theorem right {bound depth : Nat} {es fs : List Entry} (h : Steps bound (es ++ fs))
    (hhead : ∀ f ∈ fs.head?, f.depth ≤ depth) : Steps depth fs := by
  induction es generalizing bound with
  | nil =>
    cases fs with
    | nil => trivial
    | cons f fs => exact ⟨hhead f rfl, h.2⟩
  | cons e es ih => exact ih h.2

end Steps

theorem depths_ended (depth : Nat) (marker : Marker) (bs : List Block) :
    depths depth (.list marker [] :: bs) = depths depth bs := by
  simp [depths, itemDepths]

theorem depths_item (depth : Nat) (marker : Marker) (e : Entry) (nested : List Block)
    (items : List (List Block)) (bs : List Block) :
    depths depth (.list marker ((e.paragraph ++ nested) :: items) :: bs) =
      depth :: depths (depth + 1) nested ++ depths depth (.list marker items :: bs) := by
  simp [depths, itemDepths, depths_paragraph]

/-- Where tabs grow by one at a time, an item stands in as many items as it has tabs. -/
theorem Outline.depths_eq {depth : Nat} (h : Outline es bs) (hdepth : ∀ e ∈ es, depth ≤ e.depth)
    (hsteps : Steps depth es) : depths depth bs = es.map (·.depth) := by
  induction h generalizing depth with
  | nil => rw [depths, List.map_nil]
  | @start e children rest nested bs hdeeper _ hends _ ihn ihr =>
    have he : e.depth = depth := Nat.le_antisymm hsteps.1 (hdepth e List.mem_cons_self)
    subst he
    have hinner := ihn hdeeper hsteps.2.left
    have hrest := ihr (fun f hf => hdepth f (List.mem_append_right _ hf))
      (Steps.right hsteps fun f hf => (hends f hf).elim Nat.le_of_lt fun h => Nat.le_of_eq h.1)
    rw [depths_item, depths_ended, hinner, hrest, List.map_append]
    rfl
  | @join e f children rest nested bs items hdeeper _ hfdepth _ _ ihn ihr =>
    have he : e.depth = depth := Nat.le_antisymm hsteps.1 (hdepth e List.mem_cons_self)
    subst he
    have hinner := ihn hdeeper hsteps.2.left
    have hrest := ihr (fun g hg => hdepth g (List.mem_append_right _ hg))
      (Steps.right hsteps fun g hg => by cases hg; exact Nat.le_of_eq hfdepth)
    rw [depths_item, hinner, hrest, List.map_append]
    rfl

end Wiki

namespace Import
open Text Markdown Wiki

/-- An item of a Markdown list: the number of the item it stands in, how many items that makes
around it, the marker of its list, and the text of its paragraphs. -/
structure Item where
  parent : Option Nat
  depth : Nat
  marker : Wiki.Marker
  text : Text

namespace Item

/-- The line an item is written on. -/
def line (i : Item) : Text := List.replicate i.depth '\t' ++ i.marker.sign ++ ' ' :: i.text

/-- What the line says. -/
def entry (i : Item) : Entry := ⟨i.depth, i.marker, trim i.text⟩

end Item

variable (defs : List (Text × Resource))

/-- The texts of the paragraphs among an item's children. -/
def paragraphTexts : List Node → List Text
  | [] => []
  | .paragraph cs :: ns => phraseText defs cs :: paragraphTexts ns
  | _ :: ns => paragraphTexts ns

/-- A task has a marker for its state, any other item that of its innermost list. -/
def marker (checked : Option Bool) (ordered : Bool) : Wiki.Marker :=
  match checked with
  | some true => .done
  | some false => .todo
  | none => if ordered then .ordered else .unordered

mutual

/-- The items of a tree, each before the items inside it, numbered from `next` on. The tree stands
in the item `parent`, below `depth` items and a list that is `ordered` or not. -/
def items (parent : Option Nat) (next depth : Nat) (ordered : Bool) : Node → List Item
  | .list ordered _ _ cs => itemsAll parent next depth ordered cs
  | .listItem checked _ cs =>
    ⟨parent, depth, marker checked ordered, join [' '] (paragraphTexts defs cs)⟩ ::
      itemsAll (some next) (next + 1) (depth + 1) ordered cs
  | _ => []

def itemsAll (parent : Option Nat) (next depth : Nat) (ordered : Bool) : List Node → List Item
  | [] => []
  | n :: ns =>
    let inner := items parent next depth ordered n
    inner ++ itemsAll parent (next + inner.length) depth ordered ns

end

mutual

/-- Nodes of a list, or of an item in one: an item holds paragraphs that are each on one line, and
such lists. -/
def isListed (inList : Bool) : Node → Bool
  | .list _ _ _ cs => !inList && areListed true cs
  | .listItem _ _ cs => inList && areListed false cs
  | .paragraph cs => !inList && !(phraseText defs cs).contains '\n'
  | _ => false

def areListed (inList : Bool) : List Node → Bool
  | [] => true
  | n :: ns => isListed inList n && areListed inList ns

end

mutual

/-- Nodes of a list, or of an item in one: an item holds paragraphs and such lists. -/
def isOutlined (inList : Bool) : Node → Bool
  | .list _ _ _ cs => !inList && areOutlined true cs
  | .listItem _ _ cs => inList && areOutlined false cs
  | .paragraph _ => !inList
  | _ => false

def areOutlined (inList : Bool) : List Node → Bool
  | [] => true
  | n :: ns => isOutlined inList n && areOutlined inList ns

end

theorem areOutlined_of_areListed {inList : Bool} (ns : List Node)
    (h : areListed defs inList ns = true) : areOutlined inList ns = true := by
  cases ns with
  | nil => rfl
  | cons n ns =>
    obtain ⟨hn, hns⟩ := Bool.and_eq_true_iff.mp h
    refine Bool.and_eq_true_iff.mpr ⟨?_, areOutlined_of_areListed ns hns⟩
    cases n with
    | list _ _ _ cs | listItem _ _ cs =>
      obtain ⟨hin, hcs⟩ := Bool.and_eq_true_iff.mp hn
      exact Bool.and_eq_true_iff.mpr ⟨hin, areOutlined_of_areListed cs hcs⟩
    | paragraph cs => exact (Bool.and_eq_true_iff.mp hn).1
    | _ => cases hn

/-- Outlined nodes are lists, items in lists, and paragraphs in items. -/
inductive Outlined : (inList : Bool) → List Node → Prop
  | nil : Outlined inList []
  | list : Outlined true cs → Outlined false ns →
    Outlined false (.list ordered start spread cs :: ns)
  | item : Outlined false cs → Outlined true ns →
    Outlined true (.listItem checked spread cs :: ns)
  | paragraph : Outlined false ns → Outlined false (.paragraph cs :: ns)

theorem outlined_of_areOutlined {inList : Bool} (ns : List Node)
    (h : areOutlined inList ns = true) : Outlined inList ns := by
  cases ns with
  | nil => exact .nil
  | cons n ns =>
    obtain ⟨hn, hns⟩ := Bool.and_eq_true_iff.mp h
    have hrest := outlined_of_areOutlined ns hns
    cases n with
    | list ordered start spread cs =>
      obtain ⟨hin, hcs⟩ := Bool.and_eq_true_iff.mp hn
      obtain rfl : inList = false := by simpa using hin
      exact .list (outlined_of_areOutlined cs hcs) hrest
    | listItem checked spread cs =>
      obtain ⟨rfl, hcs⟩ := Bool.and_eq_true_iff.mp hn
      exact .item (outlined_of_areOutlined cs hcs) hrest
    | paragraph cs =>
      obtain rfl : inList = false := by simpa [isOutlined] using hn
      exact .paragraph hrest
    | _ => cases hn

/-- A walk over items: those inside an item come next, then the rest. -/
inductive Walk : (parent : Option Nat) → (next depth : Nat) → List Item → Prop
  | nil : Walk p n depth []
  | item {p : Option Nat} {n depth : Nat} {m : Wiki.Marker} {t : Text} {inner after : List Item} :
    Walk (some n) (n + 1) (depth + 1) inner → Walk p (n + 1 + inner.length) depth after →
    Walk p n depth (⟨p, depth, m, t⟩ :: inner ++ after)

namespace Walk

theorem append {is js : List Item} (h : Walk p n depth is)
    (hjs : Walk p (n + is.length) depth js) : Walk p n depth (is ++ js) := by
  induction h with
  | nil => exact hjs
  | @item p n depth m t inner after hinner _ _ iha =>
    rw [List.cons_append, List.length_cons, List.length_append] at hjs
    rw [List.append_assoc]
    refine .item hinner (iha ?_)
    rwa [Nat.add_assoc, Nat.add_assoc, ← Nat.add_assoc 1, Nat.add_comm 1, Nat.add_right_comm]

theorem depth_le (h : Walk p n depth is) : ∀ e ∈ is.map Item.entry, depth ≤ e.depth := by
  induction h with
  | nil => simp
  | item _ _ ihi iha =>
    intro e he
    rw [List.map_append, List.map_cons] at he
    rcases List.mem_append.mp he with he | he
    · rcases List.mem_cons.mp he with rfl | he
      · exact Nat.le_refl _
      · exact Nat.le_of_succ_le (ihi e he)
    · exact iha e he

theorem steps (h : Walk p n depth is) : Steps depth (is.map Item.entry) := by
  induction h with
  | nil => trivial
  | @item p n depth m t inner after hinner hafter ihi iha =>
    rw [List.map_append]
    have hfirst : Steps depth ((⟨p, depth, m, t⟩ :: inner).map Item.entry) :=
      ⟨Nat.le_refl _, ihi⟩
    refine hfirst.append (Nat.le_refl _) (fun e he => ?_) iha
    rcases List.mem_cons.mp he with rfl | he
    · exact Nat.le_refl _
    · exact Nat.le_of_succ_le (hinner.depth_le e he)

/-- The items around are the nearest ones with fewer tabs. -/
theorem parents_eq (h : Walk p n depth is) {before : List Entry} (hn : before.length = n)
    (hp : nearest depth before = p) :
    parents before (is.map Item.entry) = is.map (·.parent) := by
  induction h generalizing before with
  | nil => rfl
  | @item p n depth m t inner after hinner _ ihi iha =>
    let e : Entry := ⟨depth, m, trim t⟩
    have hinside : parents (e :: before) (inner.map Item.entry) = inner.map (·.parent) :=
      ihi (by simp [hn]) (by rw [nearest, if_pos (Nat.lt_succ_self _), hn])
    have hbelow : ∀ f ∈ (inner.map Item.entry).reverse ++ [e], depth ≤ f.depth := by
      intro f hf
      rcases List.mem_append.mp hf with hf | hf
      · exact Nat.le_of_succ_le (hinner.depth_le f (List.mem_reverse.mp hf))
      · obtain rfl := List.mem_singleton.mp hf
        exact Nat.le_refl _
    have hafter : parents ((inner.map Item.entry).reverse ++ e :: before)
        (after.map Item.entry) = after.map (·.parent) := by
      refine iha (by simp [hn]; omega) ?_
      rw [List.append_cons, nearest_append hbelow]
      exact hp
    show parents before (e :: (inner ++ after).map Item.entry) =
      p :: (inner ++ after).map (·.parent)
    rw [parents, List.map_append, parents_append, hinside, hafter, List.map_append]
    exact congrArg (· :: _) hp

end Walk

theorem itemsAll_walk {inList : Bool} {ns : List Node} (h : Outlined inList ns)
    (p : Option Nat) (next depth : Nat) (ordered : Bool) :
    Walk p next depth (itemsAll defs p next depth ordered ns) := by
  induction h generalizing p next depth ordered with
  | nil => exact .nil
  | list _ _ ihc ihn => exact (ihc p next depth _).append (ihn p _ depth ordered)
  | @item cs ns checked spread _ _ ihc ihn =>
    have hinner := ihc (some next) (next + 1) (depth + 1) ordered
    have hitem : Walk p next depth
        (items defs p next depth ordered (.listItem checked spread cs)) := by
      have hwalk := Walk.item (p := p) (m := marker checked ordered)
        (t := join [' '] (paragraphTexts defs cs)) hinner .nil
      rwa [List.append_nil] at hwalk
    exact hitem.append (ihn p _ depth ordered)
  | paragraph _ ihn => exact ihn p next depth ordered

theorem itemText_eq (ns : List Node) (d : Draft) :
    itemText true ns d = d.write (join [' '] (paragraphTexts d.definitions ns)) ∧
      itemText false ns d =
        d.write ((paragraphTexts d.definitions ns).flatMap ([' '] ++ ·)) := by
  induction ns generalizing d with
  | nil => exact ⟨(Draft.write_nil d).symm, (Draft.write_nil d).symm⟩
  | cons n ns ih =>
    cases n with
    | paragraph cs =>
      have hfirst := (ih (d.write (phraseText d.definitions cs))).2
      have hnext := (ih (d.write ([' '] ++ phraseText d.definitions cs))).2
      constructor
      · rw [itemText, if_pos rfl, inlines_phraseText, hfirst, Draft.write_write, paragraphTexts,
          join_cons]
        rfl
      · rw [itemText, if_neg Bool.false_ne_true, inlines_phraseText, Draft.write_write]
        show itemText false ns (d.write ([' '] ++ phraseText d.definitions cs)) = _
        rw [hnext, Draft.write_write, paragraphTexts, List.flatMap_cons]
        rfl
    | _ => exact ih d

/-- A draft in which nodes of a list, or of an item in one, are written: as deep as they stand. -/
structure Stands (d : Draft) (inList : Bool) (depth : Nat) (ordered : Bool) : Prop where
  definitions : d.definitions = defs
  listDepth : d.listDepth = if inList then depth + 1 else depth
  inOrderedList : d.inOrderedList = ordered
  inside : d.isTopLevel = false

namespace Stands

variable {defs} {d : Draft} {inList : Bool} {depth : Nat} {ordered : Bool}

theorem write (h : Stands defs d inList depth ordered) (t : Text) :
    Stands defs (d.write t) inList depth ordered :=
  ⟨h.definitions, h.listDepth, h.inOrderedList, h.inside⟩

theorem enterList (hd : d.definitions = defs) (hdepth : d.listDepth = depth) (ordered : Bool) :
    Stands defs (d.enter (.list ordered)) true depth ordered := by
  refine ⟨hd, ?_, ?_, rfl⟩
  · have hcount : (d.enter (.list ordered)).listDepth = d.listDepth + 1 :=
      List.countP_cons_of_pos rfl
    rw [hcount, hdepth, if_pos rfl]
  · cases ordered <;> rfl

theorem enterItem (h : Stands defs d true depth ordered) :
    Stands defs (d.enter .item) false (depth + 1) ordered :=
  ⟨h.definitions, h.listDepth, h.inOrderedList, rfl⟩

theorem itemMarker_eq (h : Stands defs d true depth ordered) (checked : Option Bool) :
    itemMarker checked d = (marker checked ordered).sign := by
  cases checked with
  | none =>
    rw [itemMarker, h.inOrderedList]
    cases ordered <;> rfl
  | some state => cases state <;> rfl

end Stands

/-- The lines of items. -/
def itemLines (is : List Item) : Text := endedLines (is.map Item.line)

theorem itemLines_cons (i : Item) (is : List Item) :
    itemLines (i :: is) = i.line ++ ['\n'] ++ itemLines is := by
  rw [itemLines, List.map_cons, endedLines_cons, List.append_cons]
  rfl

theorem itemLines_append (is js : List Item) :
    itemLines (is ++ js) = itemLines is ++ itemLines js := by
  rw [itemLines, List.map_append, endedLines_append, itemLines, itemLines]

/-- An item is written on its line before what is inside it. -/
theorem block_listItem {defs} {d : Draft} {depth : Nat} {ordered : Bool}
    (hd : Stands defs d true depth ordered) (checked : Option Bool) (spread : Bool)
    (cs : List Node) (p : Option Nat) : block (.listItem checked spread cs) d =
      (blocks cs ((d.write (Item.line ⟨p, depth, marker checked ordered,
        join [' '] (paragraphTexts defs cs)⟩ ++ ['\n'])).enter .item)).exit := by
  have hdepth : d.listDepth - 1 = depth := by
    rw [hd.listDepth, if_pos rfl, Nat.add_sub_cancel]
  have hmarker : d.write (List.replicate (d.listDepth - 1) '\t' ++ itemMarker checked d ++ [' ']) =
      d.write (List.replicate depth '\t' ++ (marker checked ordered).sign ++ [' ']) := by
    rw [hdepth, hd.itemMarker_eq]
  rw [block]
  simp only [hmarker]
  rw [(itemText_eq cs _).1, Draft.write_write, Draft.write_write, (hd.write _).definitions,
    Item.line]
  simp

/-- Lists are written as the lines of their items. -/
theorem blocks_outlined {inList : Bool} {ns : List Node} (h : Outlined inList ns) {d : Draft}
    {depth : Nat} {ordered : Bool} (hd : Stands defs d inList depth ordered) (p : Option Nat)
    (next : Nat) :
    blocks ns d = d.write (itemLines (itemsAll defs p next depth ordered ns)) := by
  induction h generalizing d depth ordered p next with
  | nil => exact (Draft.write_nil d).symm
  | @list cs ns ordered' start spread _ _ ihc ihn =>
    have hdepth : d.listDepth = depth := hd.listDepth.trans (if_neg Bool.false_ne_true)
    have hinner := Stands.enterList hd.definitions hdepth ordered'
    have hlist : block (.list ordered' start spread cs) d =
        d.write (itemLines (itemsAll defs p next depth ordered' cs)) := by
      rw [block, ihc hinner p next]
      rfl
    rw [blocks, hlist, ihn (hd.write _) p _, Draft.write_write, itemsAll, itemLines_append, items]
  | @item cs ns checked spread _ _ ihc ihn =>
    have hinner := (hd.write (Item.line ⟨p, depth, marker checked ordered,
      join [' '] (paragraphTexts defs cs)⟩ ++ ['\n'])).enterItem
    have hitem : block (.listItem checked spread cs) d =
        d.write (itemLines (items defs p next depth ordered (.listItem checked spread cs))) := by
      rw [block_listItem hd checked _ cs p, ihc hinner (some next) (next + 1), items,
        itemLines_cons]
      exact Draft.write_write _ _ d
    rw [blocks, hitem, ihn (hd.write _) p _, Draft.write_write, itemsAll, itemLines_append]
  | @paragraph ns cs _ ihn =>
    have hsilent : block (.paragraph cs) d = d := by
      rw [block, hd.inside, if_neg Bool.false_ne_true]
    rw [blocks, hsilent, ihn hd p next]
    rfl

/-- No item's text goes over the end of its line. -/
theorem not_mem_paragraphTexts {ns : List Node} (h : areListed defs false ns = true) :
    '\n' ∉ join [' '] (paragraphTexts defs ns) := by
  have htexts : ∀ t ∈ paragraphTexts defs ns, '\n' ∉ t := by
    intro t ht
    induction ns with
    | nil => cases ht
    | cons n ns ih =>
      obtain ⟨hn, hns⟩ := Bool.and_eq_true_iff.mp h
      cases n with
      | paragraph cs =>
        rcases List.mem_cons.mp ht with rfl | ht
        · simpa [isListed] using hn
        · exact ih hns ht
      | _ => exact ih hns ht
  cases hts : paragraphTexts defs ns with
  | nil => exact List.not_mem_nil
  | cons t ts =>
    rw [hts] at htexts
    rw [join_cons]
    intro hm
    rcases List.mem_append.mp hm with hm | hm
    · exact htexts t List.mem_cons_self hm
    obtain ⟨u, hu, hm⟩ := List.mem_flatMap.mp hm
    rcases List.mem_append.mp hm with hm | hm
    · exact absurd hm (by decide)
    · exact htexts u (List.mem_cons_of_mem t hu) hm

theorem not_mem_itemsAll {inList : Bool} {ns : List Node} (ho : Outlined inList ns)
    (h : areListed defs inList ns = true) (p : Option Nat) (next depth : Nat) (ordered : Bool) :
    ∀ i ∈ itemsAll defs p next depth ordered ns, '\n' ∉ i.text := by
  induction ho generalizing p next depth ordered with
  | nil =>
    intro i hi
    cases hi
  | list _ _ ihc ihn =>
    obtain ⟨hcs, hns⟩ := Bool.and_eq_true_iff.mp h
    exact List.forall_mem_append.mpr ⟨ihc hcs p next depth _, ihn hns p _ depth ordered⟩
  | item _ _ ihc ihn =>
    obtain ⟨hcs, hns⟩ := Bool.and_eq_true_iff.mp h
    refine List.forall_mem_append.mpr ⟨?_, ihn hns p _ depth ordered⟩
    exact List.forall_mem_cons.mpr ⟨not_mem_paragraphTexts defs hcs, ihc hcs _ _ _ ordered⟩
  | paragraph _ ihn =>
    obtain ⟨-, hns⟩ := Bool.and_eq_true_iff.mp h
    exact ihn hns p next depth ordered

theorem Item.read?_line (i : Item) : Entry.read? i.line = some i.entry :=
  Entry.read?_line i.depth i.marker i.text

theorem Item.not_mem_line {i : Item} (h : '\n' ∉ i.text) : '\n' ∉ i.line := by
  have hsign : '\n' ∉ i.marker.sign := by cases i.marker <;> decide
  intro hm
  rcases List.mem_append.mp hm with hm | hm
  · rcases List.mem_append.mp hm with hm | hm
    · cases List.eq_of_mem_replicate hm
    · exact hsign hm
  rcases List.mem_cons.mp hm with he | hm
  · cases he
  · exact h hm

/-- Blocks that are lists alone, with the items of a tree where the tree has them. -/
structure Keeps (is : List Item) (bs : List Wiki.Block) : Prop where
  isList : ∀ b ∈ bs, b.IsList
  length : (visits bs).length = is.length
  parent : (visits bs).map (·.parent) = is.map (·.parent)
  depth : depths 0 bs = is.map (·.depth)
  contents : ∀ r ∈ is.zip (visits bs), r.2.marker = r.1.marker ∧
    Holds (trim r.1.text) r.2.contents
  siblings : SiblingsAgree ((is.map Item.entry).zip (visits bs))

/-- The lines of a walk are read as lists with the items of the walk. -/
theorem Walk.keeps (h : Walk none 0 0 is) (hbreak : ∀ i ∈ is, '\n' ∉ i.text) :
    Keeps is (Wiki.Block.ofText (itemLines is)) := by
  have hlines : lines (itemLines is) = (is.map Item.line).map dropReturn := by
    refine lines_endedLines_of_unbroken fun l hl => ?_
    obtain ⟨i, hi, rfl⟩ := List.mem_map.mp hl
    exact Item.not_mem_line (hbreak i hi)
  have hread : (lines (itemLines is)).map Entry.read? = (is.map Item.entry).map some := by
    rw [hlines, List.map_map, List.map_map, List.map_map]
    exact List.map_congr_left fun i _ => Entry.read?_dropReturn i.read?_line
  have houtline : Outline (is.map Item.entry) (Wiki.Block.ofText (itemLines is)) := by
    rw [Wiki.Block.ofText_eq]
    exact outline_all hread
  have hall := houtline.outlines
  refine ⟨houtline.isList, by rw [hall.length, List.length_map], ?_, ?_, ?_, hall.siblings⟩
  · rw [hall.parent]
    exact h.parents_eq rfl rfl
  · rw [houtline.depths_eq (fun _ _ => Nat.zero_le _) h.steps, List.map_map]
    rfl
  · rintro ⟨i, v⟩ hr
    refine hall.contents (i.entry, v) ?_
    rw [List.zip_map_left]
    exact List.mem_map_of_mem (f := Prod.map Item.entry id) hr

/-- A list of items with paragraphs and such lists in them is written as the lines of its items. -/
theorem document_list (ordered : Bool) (start : Option Nat) (spread : Bool) {cs : List Node}
    (h : Outlined true cs) : (document (.list ordered start spread cs)).text = itemLines
      (itemsAll (draftOf (.list ordered start spread cs)).definitions none 0 0 ordered cs) := by
  have hd : Stands _ ((draftOf (.list ordered start spread cs)).enter (.list ordered)) true 0
    ordered := .enterList rfl rfl ordered
  rw [document_text rfl, block, blocks_outlined _ h hd none 0]
  rfl

/-- A list of items that hold paragraphs of one line and such lists is read from the wiki as lists
alone: the same items in the same order and inside the same items, each with its marker, its text
and nothing but lists after that. -/
theorem ofText_list (ordered : Bool) (start : Option Nat) (spread : Bool) {cs : List Node}
    (h : areListed (draftOf (.list ordered start spread cs)).definitions true cs = true) :
    Keeps (itemsAll (draftOf (.list ordered start spread cs)).definitions none 0 0 ordered cs)
      (Wiki.Block.ofText (document (.list ordered start spread cs)).text) := by
  have houtlined := outlined_of_areOutlined cs (areOutlined_of_areListed _ cs h)
  rw [document_list ordered start spread houtlined]
  exact (itemsAll_walk _ houtlined none 0 0 ordered).keeps
    (not_mem_itemsAll _ houtlined h none 0 0 ordered)

/-- A task that is done and an item without text in a numbered list, inside the first of two items.
The two inside have lists of their own, and those around them share one. -/
theorem ofText_list_tasks :
    let cs : List Node := [.listItem none false [.paragraph [.text ['a']],
      .list true none false [.listItem (some true) false [], .listItem none false []]],
      .listItem none false []]
    let tree : Node := .list false none false cs
    areListed (draftOf tree).definitions true cs = true ∧
      (∀ b ∈ Wiki.Block.ofText (document tree).text, b.IsList) ∧
      depths 0 (Wiki.Block.ofText (document tree).text) = [0, 1, 1, 0] ∧
      ∃ a b c d, visits (Wiki.Block.ofText (document tree).text) = [a, b, c, d] ∧
        [a, b, c, d].map (·.parent) = [none, some 0, some 0, none] ∧
        [a, b, c, d].map (·.marker) = [.unordered, .done, .ordered, .unordered] ∧
        b.list ≠ c.list ∧ a.list = d.list ∧
        (∃ nested, a.contents = .paragraph [Span.ofLine ['a']] :: nested ∧
          ∀ b ∈ nested, b.IsList) ∧
        ∀ x ∈ b.contents, x.IsList := by
  intro cs tree
  have h : areListed (draftOf tree).definitions true cs = true := by decide
  have hkeeps : Keeps [⟨none, 0, .unordered, ['a']⟩, ⟨some 0, 1, .done, []⟩,
      ⟨some 0, 1, .ordered, []⟩, ⟨none, 0, .unordered, []⟩]
      (Wiki.Block.ofText (document tree).text) := ofText_list false none false h
  obtain ⟨hlists, hlength, hparent, hdepth, hcontents, hsiblings⟩ := hkeeps
  refine ⟨h, hlists, hdepth, ?_⟩
  generalize visits (Wiki.Block.ofText (document tree).text) = vs
    at hlength hparent hcontents hsiblings ⊢
  match vs, hlength with
  | [a, b, c, d], _ =>
    have hparents : [a, b, c, d].map (·.parent) = [none, some 0, some 0, none] := hparent
    obtain ⟨ha, hb, hc, hd⟩ : a.parent = none ∧ b.parent = some 0 ∧ c.parent = some 0 ∧
        d.parent = none := by simpa using hparents
    have hfirst : a.marker = .unordered ∧ Holds ['a'] a.contents :=
      hcontents (⟨none, 0, .unordered, ['a']⟩, a) (.head _)
    have htask : b.marker = .done ∧ Holds [] b.contents :=
      hcontents (⟨some 0, 1, .done, []⟩, b) (.tail _ (.head _))
    have hnumbered : c.marker = .ordered :=
      (hcontents (⟨some 0, 1, .ordered, []⟩, c) (.tail _ (.tail _ (.head _)))).1
    have hlast : d.marker = .unordered :=
      (hcontents (⟨none, 0, .unordered, []⟩, d) (.tail _ (.tail _ (.tail _ (.head _))))).1
    have hagree : SiblingsAgree [(⟨0, .unordered, ['a']⟩, a), (⟨1, .done, []⟩, b),
        (⟨1, .ordered, []⟩, c), (⟨0, .unordered, []⟩, d)] := hsiblings
    have hshared : a.list = d.list ↔ 0 = 0 ∧ Wiki.Marker.unordered = .unordered :=
      hagree.1 (⟨0, .unordered, []⟩, d) (by simp [ha, hb, hc, hd])
    have hsplit : b.list = c.list ↔ 1 = 1 ∧ Wiki.Marker.done = .ordered :=
      hagree.2.1 (⟨1, .ordered, []⟩, c) (by simp [hb, hc])
    refine ⟨a, b, c, d, rfl, hparents, ?_, fun he => ?_, hshared.mpr ⟨rfl, rfl⟩,
      hfirst.2.exists_paragraph (by decide), htask.2.isList⟩
    · simp only [List.map_cons, List.map_nil, hfirst.1, htask.1, hnumbered, hlast]
    · exact absurd (hsplit.mp he).2 (by decide)

end Import
end MarkupBridge
