import MarkupBridge.Proofs.Boundaries
import Mathlib.Logic.Relation

namespace MarkupBridge.Wiki
open Text

/-- A list of items `least` tabs deep or deeper, from the first of the lines on. Lines that begin
with no such item are left as they are, and the list has no items. -/
def listAt (least : Nat) : List Text → Block × List Text
  | [] => (.list .unordered [], [])
  | line :: ls => match Entry.read? line with
    | none => (.list .unordered [], line :: ls)
    | some e =>
      if e.depth < least then (.list .unordered [], line :: ls)
      else (takeItems least e.depth e.marker [] e.paragraph ls).1

theorem listAt_entry {line : Text} {e : Entry} (he : Entry.read? line = some e)
    (hleast : least ≤ e.depth) (ls : List Text) :
    listAt least (line :: ls) = (takeItems least e.depth e.marker [] e.paragraph ls).1 := by
  simp only [listAt, he, if_neg (Nat.not_lt.mpr hleast)]

theorem listAt_of_takes {line : Text} {e : Entry} (he : Entry.read? line = some e)
    (hleast : least ≤ e.depth) (h : Takes least e.depth e.marker [] e.paragraph ls b rest) :
    listAt least (line :: ls) = (b, rest) := by
  obtain ⟨hb, hrest⟩ := h.unique (takeItems_takes least e.depth e.marker [] e.paragraph ls)
  rw [listAt_entry he hleast]
  exact Prod.ext hb hrest

/-- A deeper line is the first one of a list inside the item before it. -/
theorem takeItems_deeper {line : Text} {e : Entry} (he : Entry.read? line = some e)
    (hleast : least ≤ e.depth) (hdeep : depth < e.depth) (marker : Marker)
    (items : List (List Block)) (item : List Block) (ls : List Text) :
    (takeItems least depth marker items item (line :: ls)).1 =
      (takeItems least depth marker items (item ++ [(listAt (depth + 1) (line :: ls)).1])
        (listAt (depth + 1) (line :: ls)).2).1 := by
  have hinner := takeItems_takes (depth + 1) e.depth e.marker [] e.paragraph ls
  rw [listAt_of_takes he hdeep hinner]
  have hrest := takeItems_takes least depth marker items
    (item ++ [(takeItems (depth + 1) e.depth e.marker [] e.paragraph ls).1.1])
    (takeItems (depth + 1) e.depth e.marker [] e.paragraph ls).1.2
  obtain ⟨htaken, hleft⟩ := (Takes.nested he hleast hdeep hinner hrest).unique
    (takeItems_takes least depth marker items item (line :: ls))
  exact Prod.ext htaken hleft

/-- The loop of a list goes on from the first lines to the second: past an item of its own, or past
a list inside the item before. -/
inductive ListTurns (least depth : Nat) (marker : Marker) : List Text → List Text → Prop
  | refl (ls : List Text) : ListTurns least depth marker ls ls
  | item : Entry.read? line = some e → least ≤ e.depth → e.depth = depth → e.marker = marker →
    ListTurns least depth marker ls rest → ListTurns least depth marker (line :: ls) rest
  | nested : Entry.read? line = some e → least ≤ e.depth → depth < e.depth →
    ListTurns least depth marker (listAt (depth + 1) (line :: ls)).2 rest →
    ListTurns least depth marker (line :: ls) rest

/-- What a list leaves is where its loop comes to, and there it ends. -/
theorem Takes.listTurns (h : Takes least depth marker items item ls taken left) :
    ListTurns least depth marker ls left ∧ ListEnds least depth marker left := by
  induction h with
  | ended hends => exact ⟨.refl _, hends⟩
  | nested he hleast hdeep hb _ _ ih =>
    refine ⟨.nested he hleast hdeep ?_, ih.2⟩
    rw [listAt_of_takes he hdeep hb]
    exact ih.1
  | next he hleast hdepth hmarker _ ih =>
    exact ⟨.item he hleast hdepth hmarker ih.1, ih.2⟩

/-- A list is what its loop comes to from the item in its first line on. -/
theorem listAt_turns {line : Text} {e : Entry} (he : Entry.read? line = some e)
    (hleast : least ≤ e.depth) (ls : List Text) :
    ListTurns least e.depth e.marker ls (listAt least (line :: ls)).2 ∧
      ListEnds least e.depth e.marker (listAt least (line :: ls)).2 := by
  rw [listAt_entry he hleast]
  exact (takeItems_takes least e.depth e.marker [] e.paragraph ls).listTurns

theorem listAt_suffix {line : Text} {e : Entry} (he : Entry.read? line = some e)
    (hleast : least ≤ e.depth) (ls : List Text) : (listAt least (line :: ls)).2 <:+ ls := by
  rw [listAt_entry he hleast]
  exact (takeItems_takes least e.depth e.marker [] e.paragraph ls).suffix

theorem ListTurns.suffix (h : ListTurns least depth marker ls rest) : rest <:+ ls := by
  induction h with
  | refl ls => exact List.suffix_refl ls
  | item _ _ _ _ _ ih => exact ih.trans (List.suffix_cons _ _)
  | nested he _ hdeep _ ih =>
    exact (ih.trans (listAt_suffix he hdeep _)).trans (List.suffix_cons _ _)

namespace Chunk

/-- How many lines a block takes after its first one. -/
def extent (line : Text) (ls : List Text) : Nat :=
  match Opening.read? line with
  | none => (ls.takeWhile inParagraph).length
  | some (.fence _) =>
    (ls.takeWhile (!Opening.isFence ·)).length + ((ls.dropWhile (!Opening.isFence ·)).take 1).length
  | some .rocket => (ls.takeWhile Opening.isRocket).length
  | some (.embed _) | some (.heading _ _) | some .rule => 0
  | some (.entry e) => ls.length - (takeList e ls).2.length
  | some .quote => (ls.takeWhile Opening.isQuote).length
  | some (.table _) => (bracedBody [] ls).1.count '\n'
  | some (.image _ inside) => (bracedBody inside ls).1.count '\n'

/-- A block takes no more lines than there are, and leaves those after them. -/
theorem read_extent {line : Text} {ls : List Text} (hbreak : ∀ l ∈ line :: ls, '\n' ∉ l) :
    extent line ls ≤ ls.length ∧ (read line ls).2 = ls.drop (extent line ls) := by
  cases ho : Opening.read? line with
  | none =>
    simp only [extent, read, ho]
    exact ⟨length_takeWhile_le _ _, (drop_takeWhile _ _).symm⟩
  | some o =>
    cases o with
    | fence language =>
      simp only [extent, read, ho]
      constructor
      · have hsplit := congrArg List.length (List.takeWhile_append_dropWhile
          (p := (!Opening.isFence ·)) (l := ls))
        rw [List.length_append] at hsplit
        have hclosing := List.length_take_le' 1 (ls.dropWhile (!Opening.isFence ·))
        omega
      · rw [← List.drop_drop, drop_takeWhile]
        cases ls.dropWhile (!Opening.isFence ·) <;> rfl
    | rocket =>
      simp only [extent, read, ho]
      exact ⟨length_takeWhile_le _ _, (drop_takeWhile _ _).symm⟩
    | quote =>
      simp only [extent, read, ho]
      exact ⟨length_takeWhile_le _ _, (drop_takeWhile _ _).symm⟩
    | embed _ | heading _ _ | rule =>
      simp only [extent, read, ho]
      exact ⟨Nat.zero_le _, rfl⟩
    | entry e =>
      simp only [extent, read, ho]
      exact ⟨Nat.sub_le _ _, List.suffix_iff_eq_drop.mp (takeList_suffix e ls)⟩
    | table caption =>
      simp only [extent, read, ho]
      exact ⟨count_bracedBody_le (unbroken_nil hbreak), rfl⟩
    | image layout inside =>
      simp only [extent, read, ho]
      exact ⟨count_bracedBody_le (unbroken_inside hbreak ho), rfl⟩

/-- The block of a list is the list called for at its first line. -/
theorem read_entry {line : Text} {e : Entry} (h : Opening.read? line = some (.entry e))
    (ls : List Text) :
    read line ls = (.block (listAt 0 (line :: ls)).1, (listAt 0 (line :: ls)).2) := by
  rw [listAt_entry (Opening.fits_of_read? h) (Nat.zero_le _)]
  simp only [read, h]
  rfl

/-- The loop of a document goes on from the first lines to the second: past a blank line, or past a
block. -/
inductive Turns : List Text → List Text → Prop
  | refl (ls : List Text) : Turns ls ls
  | blank : isBlankLine line = true → Turns ls rest → Turns (line :: ls) rest
  | chunk : isBlankLine line = false → Turns (read line ls).2 rest → Turns (line :: ls) rest

theorem Turns.suffix (h : Turns ls rest) : rest <:+ ls := by
  induction h with
  | refl ls => exact List.suffix_refl ls
  | blank _ _ ih => exact ih.trans (List.suffix_cons _ _)
  | chunk _ _ ih => exact (ih.trans (read_suffix _ _)).trans (List.suffix_cons _ _)

/-- The chunks of lines are those of the blocks that the loop comes to. -/
theorem mem_all_iff {c : Chunk} {ls : List Text} :
    c ∈ all ls ↔ ∃ line rest, Turns ls (line :: rest) ∧ isBlankLine line = false ∧
      (read line rest).1 = c := by
  constructor
  · intro h
    fun_induction all ls with
    | case1 => cases h
    | case2 line ls hblank ih =>
      obtain ⟨first, rest, hturns, hread⟩ := ih h
      exact ⟨first, rest, .blank hblank hturns, hread⟩
    | case3 line ls hblank ih =>
      have hline : isBlankLine line = false := by simpa using hblank
      rcases List.mem_cons.mp h with rfl | h
      · exact ⟨line, ls, .refl _, hline, rfl⟩
      · obtain ⟨first, rest, hturns, hread⟩ := ih h
        exact ⟨first, rest, .chunk hline hturns, hread⟩
  · rintro ⟨line, rest, hturns, hline, rfl⟩
    generalize hlines : line :: rest = left at hturns
    induction hturns with
    | refl ls =>
      rw [← hlines, all_cons hline]
      exact List.mem_cons_self
    | blank hblank _ ih =>
      rw [all_blank hblank]
      exact ih hlines
    | chunk hfirst _ ih =>
      rw [all_cons hfirst]
      exact List.mem_cons_of_mem _ (ih hlines)

end Chunk

/-- What is called for: a document by its text, a block by the lines from its first one on, and a
list likewise, of items `least` tabs deep or deeper. -/
inductive Call where
  | document (text : Text)
  | block (ls : List Text)
  | list (least : Nat) (ls : List Text)

/-- One call makes another while it is at work. -/
inductive Makes : Call → Call → Prop
  | block : Chunk.Turns (lines text) (line :: ls) → isBlankLine line = false →
    Makes (.document text) (.block (line :: ls))
  | list : Opening.read? line = some (.entry e) → Makes (.block (line :: ls)) (.list 0 (line :: ls))
  | nested : Entry.read? first = some f → least ≤ f.depth →
    ListTurns least f.depth f.marker ls (line :: rest) → Entry.read? line = some e →
    least ≤ e.depth → f.depth < e.depth →
    Makes (.list least (first :: ls)) (.list (f.depth + 1) (line :: rest))
  | document : t ∈ (Chunk.read line ls).1.texts → Makes (.block (line :: ls)) (.document t)

namespace Call

/-- A call counts by the text before it, and before the same text a document counts more than a
block, and a block more than a list. -/
def rank : Call → Nat
  | document text => 3 * (text.length + 1) + 2
  | block ls => 3 * weight ls + 1
  | list _ ls => 3 * weight ls

end Call

theorem weight_le_of_isSuffix {ls ms : List Text} (h : ls <:+ ms) : weight ls ≤ weight ms := by
  obtain ⟨front, rfl⟩ := h
  rw [weight_append]
  exact Nat.le_add_left _ _

theorem Makes.rank_lt {outer inner : Call} (h : Makes outer inner) : inner.rank < outer.rank := by
  cases h with
  | @block text line ls hturns _ =>
    have hlines := weight_le_of_isSuffix hturns.suffix
    have htext := weight_lines_le text
    simp only [Call.rank]
    omega
  | list _ => exact Nat.lt_succ_self _
  | @nested first f least ls line rest e _ _ hturns _ _ _ =>
    have hlines := weight_le_of_isSuffix hturns.suffix
    simp only [Call.rank, weight_cons] at hlines ⊢
    omega
  | document ht =>
    have hlength := Chunk.length_lt_of_mem_read ht
    simp only [Call.rank]
    omega

theorem transGen_rank_lt {outer inner : Call} (h : Relation.TransGen Makes outer inner) :
    inner.rank < outer.rank := by
  induction h with
  | single h => exact h.rank_lt
  | tail _ h ih => exact Nat.lt_trans h.rank_lt ih

theorem wellFounded_makes : WellFounded fun inner outer => Makes outer inner :=
  Subrelation.wf (fun h => Makes.rank_lt h) (measure Call.rank).wf

/-- The chunks of a document are those of the blocks it calls for. -/
theorem Chunk.mem_all_lines_iff {c : Chunk} {text : Text} :
    c ∈ all (lines text) ↔
      ∃ line ls, Makes (.document text) (.block (line :: ls)) ∧ (read line ls).1 = c := by
  rw [mem_all_iff]
  constructor
  · rintro ⟨line, ls, hturns, hline, hread⟩
    exact ⟨line, ls, .block hturns hline, hread⟩
  · rintro ⟨line, ls, hmakes, hread⟩
    cases hmakes with
    | block hturns hline => exact ⟨line, ls, hturns, hline, hread⟩

/-- A list is called for at an item that is deep enough, and takes the line of that item. -/
theorem Makes.takes_line {outer : Call} (h : Makes outer (.list least ls)) :
    ∃ line rest e, ls = line :: rest ∧ Entry.read? line = some e ∧ least ≤ e.depth ∧
      (listAt least ls).2 <:+ rest := by
  cases h with
  | list ho =>
    have he := Opening.fits_of_read? ho
    exact ⟨_, _, _, rfl, he, Nat.zero_le _, listAt_suffix he (Nat.zero_le _) _⟩
  | nested _ _ _ he _ hdeep => exact ⟨_, _, _, rfl, he, hdeep, listAt_suffix he hdeep _⟩

/-- A block is called for at one of the document's lines, and leaves the document at a later one or
at its end. -/
theorem Makes.moves {text line : Text} {ls : List Text}
    (h : Makes (.document text) (.block (line :: ls))) :
    ∃ pos, (lines text).drop pos = line :: ls ∧
      (lines text).drop (pos + 1 + Chunk.extent line ls) = (Chunk.read line ls).2 ∧
      pos + 1 + Chunk.extent line ls ≤ (lines text).length := by
  cases h with
  | block hturns _ =>
    have hbreak : ∀ l ∈ line :: ls, '\n' ∉ l := fun l hl =>
      not_mem_of_mem_lines (hturns.suffix.subset hl)
    obtain ⟨hextent, hread⟩ := Chunk.read_extent hbreak
    obtain ⟨before, hlines⟩ := hturns.suffix
    refine ⟨before.length, ?_, ?_, ?_⟩
    · rw [← hlines, List.drop_left]
    · rw [← hlines, hread, Nat.add_assoc, List.drop_length_add_append, Nat.add_comm 1,
        List.drop_succ_cons]
    · rw [← hlines, List.length_append, List.length_cons]
      omega

/-- Reading gets on, and comes to its end. Each chunk of a document is that of a block called for,
and each list, inside an item too, is one called for. A block takes a line at least and none that is
not there, a list is called for where it has an item to take, documents are read inside longer ones
only, and no chain of calls within calls goes on for ever. -/
theorem makes_progress :
    (∀ (text : Text) (c : Chunk), c ∈ Chunk.all (lines text) ↔
      ∃ line ls, Makes (.document text) (.block (line :: ls)) ∧ (Chunk.read line ls).1 = c) ∧
    (∀ (line : Text) (e : Entry) (ls : List Text), Opening.read? line = some (.entry e) →
      Makes (.block (line :: ls)) (.list 0 (line :: ls)) ∧
        Chunk.read line ls = (.block (listAt 0 (line :: ls)).1, (listAt 0 (line :: ls)).2)) ∧
    (∀ (least : Nat) (line : Text) (e : Entry) (ls : List Text), Entry.read? line = some e →
      least ≤ e.depth →
        ListTurns least e.depth e.marker ls (listAt least (line :: ls)).2 ∧
          ListEnds least e.depth e.marker (listAt least (line :: ls)).2) ∧
    (∀ (least depth : Nat) (marker : Marker) (items : List (List Block)) (item : List Block)
      (line : Text) (e : Entry) (ls : List Text), Entry.read? line = some e → least ≤ e.depth →
      depth < e.depth → (takeItems least depth marker items item (line :: ls)).1 =
        (takeItems least depth marker items (item ++ [(listAt (depth + 1) (line :: ls)).1])
          (listAt (depth + 1) (line :: ls)).2).1) ∧
    (∀ (text line : Text) (ls : List Text), Makes (.document text) (.block (line :: ls)) →
      ∃ pos, (lines text).drop pos = line :: ls ∧
        (lines text).drop (pos + 1 + Chunk.extent line ls) = (Chunk.read line ls).2 ∧
        pos + 1 + Chunk.extent line ls ≤ (lines text).length) ∧
    (∀ (outer : Call) (least : Nat) (ls : List Text), Makes outer (.list least ls) →
      ∃ line rest e, ls = line :: rest ∧ Entry.read? line = some e ∧ least ≤ e.depth ∧
        (listAt least ls).2 <:+ rest) ∧
    (∀ text inside : Text, Relation.TransGen Makes (.document text) (.document inside) →
      inside.length < text.length) ∧
    WellFounded fun inner outer => Makes outer inner := by
  refine ⟨fun text c => Chunk.mem_all_lines_iff,
    fun line e ls h => ⟨.list h, Chunk.read_entry h ls⟩,
    fun least line e ls he hleast => listAt_turns he hleast ls,
    fun least depth marker items item line e ls he hleast hdeep =>
      takeItems_deeper he hleast hdeep marker items item ls,
    fun text line ls h => h.moves, fun outer least ls h => h.takes_line,
    fun text inside h => ?_, wellFounded_makes⟩
  have hrank := transGen_rank_lt h
  simp only [Call.rank] at hrank
  omega

/-- A list in a quote, whose second item is deeper by two tabs than the first one. -/
theorem makes_progress_quote :
    let text : Text := "> * a\n> \t\t* b\nc".toList
    let inside : Text := "* a\n\t\t* b".toList
    Makes (.document text) (.block ["> * a".toList, "> \t\t* b".toList, "c".toList]) ∧
      Relation.TransGen Makes (.document text) (.document inside) ∧
      Makes (.list 0 ["* a".toList, "\t\t* b".toList]) (.list 1 ["\t\t* b".toList]) ∧
      (∃ pos, (lines text).drop pos = ["> * a".toList, "> \t\t* b".toList, "c".toList] ∧
        (lines text).drop (pos + 1 + 1) = ["c".toList] ∧ pos + 1 + 1 ≤ (lines text).length) ∧
      (∃ line rest e, ["\t\t* b".toList] = line :: rest ∧ Entry.read? line = some e ∧ 1 ≤ e.depth ∧
        (listAt 1 ["\t\t* b".toList]).2 <:+ rest) ∧
      inside.length < text.length := by
  intro text inside
  have hlines : lines text = ["> * a".toList, "> \t\t* b".toList, "c".toList] := by decide
  have hquote : Makes (.document text)
      (.block ["> * a".toList, "> \t\t* b".toList, "c".toList]) := by
    refine .block ?_ (by decide)
    rw [hlines]
    exact .refl _
  have hinside : Makes (.block ["> * a".toList, "> \t\t* b".toList, "c".toList])
      (.document inside) := .document (by decide)
  have hdeep : Makes (.list 0 ["* a".toList, "\t\t* b".toList]) (.list 1 ["\t\t* b".toList]) :=
    .nested (f := ⟨0, .unordered, ['a']⟩) (e := ⟨2, .unordered, ['b']⟩) (by decide) (by decide)
      (.refl _) (by decide) (by decide) (by decide)
  have hchain := (Relation.TransGen.single hquote).tail hinside
  have hleft : (Chunk.read "> * a".toList ["> \t\t* b".toList, "c".toList]).2 = ["c".toList] := by
    decide
  obtain ⟨-, -, -, -, hmoves, htakes, hshorter, -⟩ := makes_progress
  exact ⟨hquote, hchain, hdeep, hleft ▸ hmoves _ _ _ hquote, htakes _ _ _ hdeep,
    hshorter _ _ hchain⟩

end MarkupBridge.Wiki
