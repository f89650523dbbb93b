import MarkupBridge.Proofs.LineForm
import MarkupBridge.Proofs.Preorder
import MarkupBridge.Proofs.Visits

namespace MarkupBridge

namespace Wiki
open Text

/-- A height comes with a width only, and what is shown has a name on one line, without a bar. -/
structure ImageEntry.WellFormed (e : ImageEntry α) : Prop where
  target_ne_nil : e.target ≠ []
  target_trimmed : trim e.target = e.target
  not_mem_bar : '|' ∉ e.target
  not_mem_newline : '\n' ∉ e.target
  width : ∀ height ∈ e.height, ∃ width, e.width = some width

/-- A rocket is empty if it leads nowhere. -/
structure Rocket.WellFormed (r : Rocket) : Prop where
  empty_iff : r.empty = true ↔ r.link.address = []
  text_ne_nil : ∀ t ∈ r.link.text, t ≠ []

structure Row.WellFormed (row : Row α) : Prop where
  ne_nil : row ≠ []
  colspan : ∀ cell ∈ row, 1 ≤ cell.colspan

/-- A text that is there, with no blank at either end. -/
structure IsWord (t : Text) : Prop where
  ne_nil : t ≠ []
  trimmed : trim t = t

namespace Block

/-- What an item of a list holds: a paragraph of one line, or none, and then lists. -/
structure IsItem (item : List Block) : Prop where
  parts : ∃ text nested, item = text ++ nested ∧
    (text = [] ∨ ∃ l, text = [.paragraph [l]]) ∧ ∀ b ∈ nested, b.IsList

/-- The form of a block, apart from the blocks in it. -/
def WellFormed : Block → Prop
  | .heading level lines => 1 ≤ level ∧ level ≤ 6 ∧ ∃ l, lines = [l] ∧ Span.WellFormed l
  | .paragraph lines => lines ≠ [] ∧ ∀ l ∈ lines, Span.WellFormed l
  | .code language contents => (∀ l ∈ language, IsWord l) ∧
    (contents = [] ∨ contents.getLast? = some '\n') ∧
    ∀ l ∈ lines contents, Opening.isFence l = false
  | .list _ items => items ≠ [] ∧ ∀ item ∈ items, IsItem item
  | .rule | .quote _ => True
  | .table _ rows => ∀ row ∈ rows, Row.WellFormed row
  | .image _ entries => ∀ e ∈ entries, e.WellFormed
  | .launchpad rockets => rockets ≠ [] ∧ ∀ r ∈ rockets, r.WellFormed
  | .transclusion target => trim target = target ∧ '|' ∉ target
  | .unknown _ => False

end Block

theorem isWord_of_nonempty? {t u : Text} (h : nonempty? (trim t) = some u) : IsWord u := by
  obtain ⟨rfl, hne⟩ := ne_nil_of_nonempty? h
  exact ⟨hne, trim_trim t⟩

namespace Opening

theorem isWord_of_read?_fence {line : Text} {language : Option Text}
    (h : read? line = some (.fence language)) : ∀ l ∈ language, IsWord l := by
  have hlanguage : language = nonempty? (trim (line.dropWhile (· == '\x60'))) := by
    unfold read? at h
    repeat' split at h
    all_goals simp_all
  intro l hl
  exact isWord_of_nonempty? (hlanguage.symm.trans hl)

theorem eq_of_read?_embed {line target : Text} (h : read? line = some (.embed target)) :
    ∃ t, target = (Link.read t).address := by
  unfold read? at h
  repeat' split at h
  all_goals simp_all
  exact ⟨_, h.symm⟩

end Opening

namespace Block

theorem IsItem.concat {item : List Block} (h : IsItem item) {b : Block} (hb : b.IsList) :
    IsItem (item ++ [b]) := by
  obtain ⟨text, nested, rfl, htext, hnested⟩ := h.parts
  refine ⟨text, nested ++ [b], by rw [List.append_assoc], htext, fun a ha => ?_⟩
  rcases List.mem_append.mp ha with ha | ha
  · exact hnested a ha
  · rw [List.mem_singleton.mp ha]
    exact hb

theorem wellFormed_paragraph (l : Text) : WellFormed (.paragraph [Span.ofLine l]) := by
  refine ⟨List.cons_ne_nil _ _, fun m hm => ?_⟩
  rw [List.mem_singleton.mp hm]
  exact Span.wellFormed_ofLine l

/-- An item as a list takes it: of the right form, as are the blocks in it. -/
def Settled (item : List Block) : Prop := IsItem item ∧ ∀ b ∈ preorder item, b.WellFormed

theorem Settled.entry (e : Entry) : Settled e.paragraph := by
  unfold Entry.paragraph
  split
  · refine ⟨⟨[], [], rfl, .inl rfl, by simp⟩, fun b hb => ?_⟩
    rw [preorder] at hb
    cases hb
  · refine ⟨⟨_, [], (List.append_nil _).symm, .inr ⟨_, rfl⟩, by simp⟩, fun b hb => ?_⟩
    rw [preorder, inside, preorder, List.append_nil] at hb
    rw [List.mem_singleton.mp hb]
    exact wellFormed_paragraph e.text

theorem Settled.concat {item : List Block} (h : Settled item) {b : Block} (hlist : b.IsList)
    (hb : ∀ a ∈ b :: inside b, a.WellFormed) : Settled (item ++ [b]) := by
  refine ⟨h.1.concat hlist, fun a ha => ?_⟩
  rw [preorder_eq, List.flatMap_append, List.flatMap_singleton, ← preorder_eq] at ha
  exact (List.mem_append.mp ha).elim (h.2 a) (hb a)

end Block

/-- A list that goes on from settled items is well formed, and so is all that is in it. -/
theorem Takes.wellFormed (h : Takes least depth marker items item ls taken left)
    (hitems : ∀ i ∈ items ++ [item], Block.Settled i) :
    ∀ b ∈ taken :: taken.inside, b.WellFormed := by
  induction h with
  | @ended _ _ _ _ items item _ =>
    intro b hb
    rcases List.mem_cons.mp hb with rfl | hb
    · exact ⟨by simp, fun i hi => (hitems i hi).1⟩
    · rw [Block.inside, Block.preorderItems_eq] at hb
      obtain ⟨i, hi, hb⟩ := List.mem_flatMap.mp hb
      exact (hitems i hi).2 b hb
  | @nested _ e _ _ _ _ _ _ items item _ _ _ _ _ hb _ ihb iht =>
    have hinner := ihb fun i hi => by
      rw [List.mem_singleton.mp hi]
      exact .entry e
    obtain ⟨more, hlist⟩ := hb.eq_list
    apply iht
    intro i hi
    rcases List.mem_append.mp hi with hi | hi
    · exact hitems i (List.mem_append_left _ hi)
    · rw [List.mem_singleton.mp hi]
      have hitem := hitems item (List.mem_append_right _ List.mem_cons_self)
      exact hitem.concat ⟨_, _, hlist⟩ hinner
  | @next _ e _ _ _ _ _ _ _ _ _ _ _ _ _ ih =>
    apply ih
    intro i hi
    rcases List.mem_append.mp hi with hi | hi
    · exact hitems i hi
    · rw [List.mem_singleton.mp hi]
      exact .entry e

theorem takeList_wellFormed (e : Entry) (ls : List Text) :
    ∀ b ∈ (takeList e ls).1 :: (takeList e ls).1.inside, b.WellFormed := by
  refine (takeItems_takes 0 e.depth e.marker [] e.paragraph ls).wellFormed fun i hi => ?_
  rw [List.mem_singleton.mp hi]
  exact .entry e

namespace Row

theorem colspan_scan (inLink : Bool) (prev : Option Char) (t : Text) :
    ∀ cell ∈ (scan inLink prev t).2, 1 ≤ cell.colspan := by
  fun_induction scan inLink prev t with
  | case1 => simp
  | case2 => simp
  | case3 _ _ _ _ _ _ h ih =>
    rw [h] at ih
    exact ih
  | case4 _ _ _ _ _ _ _ _ _ h ih =>
    rw [h] at ih
    intro cell hcell
    rcases List.mem_cons.mp hcell with rfl | hcell
    · exact Nat.le_add_left 1 _
    · exact ih cell hcell
  | case5 _ _ _ _ _ _ _ _ _ h ih =>
    rw [h] at ih
    exact ih

/-- A line that begins with a delimiter opens a cell at once. -/
theorem scan_ne_nil {line : Text} (h : opensRow line = true) : (scan false none line).2 ≠ [] := by
  obtain ⟨c, t, rfl, hc⟩ : ∃ c t, line = c :: t ∧ (c = '|' ∨ c = '!') := by
    rcases Bool.or_eq_true_iff.mp h with h | h
    · obtain ⟨t, ht⟩ := Option.isSome_iff_exists.mp h
      exact ⟨'|', t, after?_eq_some_iff.mp ht, .inl rfl⟩
    · obtain ⟨t, ht⟩ := Option.isSome_iff_exists.mp h
      exact ⟨'!', t, after?_eq_some_iff.mp ht, .inr rfl⟩
  have hslash : c ≠ '\\' := by
    rintro rfl
    exact hc.elim (by simp) (by simp)
  have hopens : (!false && isDelimiter none c) = true := by
    rcases hc with rfl | rfl
    · rfl
    · rfl
  rw [scan.eq_4 false none c t (fun he _ => hslash he) (fun _ _ he _ => hslash he), if_pos hopens]
  exact List.cons_ne_nil _ _

theorem cells_wellFormed {line : Text} (h : opensRow line = true) : WellFormed (cells line) := by
  have hcolspan := colspan_scan false none line
  unfold cells dropClosing
  split
  · next hclosing =>
    obtain ⟨hlength, -⟩ := Bool.and_eq_true_iff.mp hclosing
    refine ⟨fun hnil => ?_, fun cell hcell => hcolspan cell (List.dropLast_subset _ hcell)⟩
    have hdrop := congrArg List.length hnil
    rw [List.length_dropLast, List.length_nil] at hdrop
    have := of_decide_eq_true hlength
    omega
  · exact ⟨scan_ne_nil h, hcolspan⟩

theorem ofLine_wellFormed (line : Text) : WellFormed (ofLine line) := by
  unfold ofLine
  split
  · next h => exact cells_wellFormed h
  · refine ⟨List.cons_ne_nil _ _, fun cell hcell => ?_⟩
    obtain rfl := List.mem_singleton.mp hcell
    exact Nat.le_refl 1

theorem WellFormed.extendLast {row : Row Text} (h : WellFormed row) (more : List Text) :
    WellFormed (extendLast more row) := by
  obtain ⟨hne, hcolspan⟩ := h
  fun_induction Row.extendLast more row with
  | case1 => exact absurd rfl hne
  | case2 cell =>
    refine ⟨List.cons_ne_nil _ _, fun c hc => ?_⟩
    rw [List.mem_singleton.mp hc]
    exact hcolspan cell List.mem_cons_self
  | case3 cell row hrow ih =>
    have hrest := ih hrow fun c hc => hcolspan c (List.mem_cons_of_mem cell hc)
    refine ⟨List.cons_ne_nil _ _, fun c hc => ?_⟩
    rcases List.mem_cons.mp hc with rfl | hc
    · exact hcolspan c List.mem_cons_self
    · exact hrest.colspan c hc

theorem WellFormed.map {row : Row α} (h : WellFormed row) {f : Cell α → Cell β}
    (hf : ∀ cell, (f cell).colspan = cell.colspan) : WellFormed (List.map f row) := by
  refine ⟨fun hnil => h.ne_nil (List.map_eq_nil_iff.mp hnil), fun c hc => ?_⟩
  obtain ⟨cell, hcell, rfl⟩ := List.mem_map.mp hc
  rw [hf]
  exact h.colspan cell hcell

theorem gather_wellFormed (ls : List Text) : ∀ row ∈ gather ls, WellFormed row := by
  fun_induction gather ls with
  | case1 => simp
  | case2 line ls ih =>
    intro row hrow
    rcases List.mem_cons.mp hrow with rfl | hrow
    · exact ((ofLine_wellFormed line).extendLast _).map fun _ => rfl
    · exact ih row hrow

end Row

namespace Gallery

/-- A line of a gallery is one line, less its braces. -/
theorem not_mem_drafts (t : Text) :
    '\n' ∉ (drafts t).1.head ∧ ∀ d ∈ (drafts t).2, '\n' ∉ d.head := by
  fun_induction drafts t with
  | case1 => simp
  | case2 t d ds h ih =>
    rw [h] at ih
    refine ⟨List.not_mem_nil, fun x hx => ?_⟩
    rcases List.mem_cons.mp hx with rfl | hx
    · exact ih.1
    · exact ih.2 x hx
  | case3 t d ds h _ ih =>
    rw [h] at ih
    exact ih
  | case4 c t hc _ d ds h ih =>
    rw [h] at ih
    exact ⟨List.not_mem_cons_of_ne_of_not_mem (Ne.symm hc) ih.1, ih.2⟩

/-- The part of a line before its bar, trimmed, is what its image shows. -/
theorem Draft.target_eq (d : Draft) : ∃ before, before <:+: d.head ∧ '|' ∉ before ∧
    (((cutChar? '|' d.head).map fun (a, b) => (trim a, trim b)).getD (trim d.head, [])).1 =
      trim before := by
  cases hcut : cutChar? '|' d.head with
  | none => exact ⟨d.head, List.infix_refl _, not_mem_of_cutChar?_eq_none hcut, rfl⟩
  | some p =>
    refine ⟨p.1, ⟨[], '|' :: p.2, ?_⟩, not_mem_of_cutChar? hcut, rfl⟩
    rw [List.nil_append]
    exact (eq_of_cutChar? hcut).symm

theorem Draft.image?_wellFormed {d : Draft} (hd : '\n' ∉ d.head) {e : ImageEntry Text}
    (h : d.image? = some e) : e.WellFormed := by
  obtain ⟨before, hbefore, hbar, htarget⟩ := d.target_eq
  have hmem : ∀ c ∈ trim before, c ∈ before := fun c hc => (trim_isInfix before).subset hc
  unfold Draft.image? at h
  generalize ((cutChar? '|' d.head).map _).getD _ = parts at h htarget
  obtain ⟨target, size⟩ := parts
  obtain rfl : target = trim before := htarget
  simp only at h
  split at h
  · cases h
  next hne =>
  have hne : trim before ≠ [] := fun he => hne (List.isEmpty_iff.mpr he)
  split at h
  all_goals
    cases h
    refine ⟨hne, trim_trim before, fun hm => hbar (hmem _ hm),
      fun hm => hd (hbefore.subset (hmem _ hm)), ?_⟩
  · exact fun _ _ => ⟨_, rfl⟩
  · intro height hheight
    cases hheight

theorem read_wellFormed (body : Text) : ∀ e ∈ read body, e.WellFormed := by
  intro e he
  obtain ⟨hfirst, hmore⟩ := not_mem_drafts body
  obtain ⟨d, hd, he⟩ := List.mem_filterMap.mp he
  rcases List.mem_cons.mp hd with rfl | hd
  · exact Draft.image?_wellFormed hfirst he
  · exact Draft.image?_wellFormed (hmore d hd) he

end Gallery

theorem isFence_of_isPrefix {l m : Text} (hl : l <+: m) (h : Opening.isFence m = false) :
    Opening.isFence l = false :=
  Bool.eq_false_iff.mpr fun hfence => Bool.eq_false_iff.mp h (startsWith_of_isPrefix hfence hl)

/-- The lines of a fenced block hold no fence, however their endings are taken off. -/
theorem wellFormed_code {language : Option Text} (hlanguage : ∀ l ∈ language, IsWord l)
    {ls : List Text} (hbreak : ∀ l ∈ ls, '\n' ∉ l) (hfence : ∀ l ∈ ls, Opening.isFence l = false) :
    Block.WellFormed (.code language (endedLines ls)) := by
  refine ⟨hlanguage, ?_, fun l hl => ?_⟩
  · by_cases hne : ls = []
    · rw [hne]
      exact .inl rfl
    · rw [endedLines_eq_join hne]
      exact .inr List.getLast?_concat
  · rw [lines_endedLines_of_unbroken hbreak] at hl
    obtain ⟨m, hm, rfl⟩ := List.mem_map.mp hl
    exact isFence_of_isPrefix (dropReturn_isPrefix m) (hfence m hm)

theorem rocket_wellFormed (line : Text) : (Chunk.rocket line).WellFormed :=
  ⟨List.isEmpty_iff, Link.read_text_ne_nil _⟩

namespace Chunk

/-- The form of a chunk, apart from the documents inside it. -/
def WellFormed : Chunk → Prop
  | .block b => ∀ a ∈ b :: b.inside, a.WellFormed
  | .quote _ => True
  | .table _ rows => ∀ row ∈ rows, Row.WellFormed row
  | .image _ images => ∀ e ∈ images, e.WellFormed

theorem WellFormed.single {b : Block} (hb : b.WellFormed) (hinside : b.inside = []) :
    WellFormed (.block b) := by
  intro a ha
  rw [hinside] at ha
  rw [List.mem_singleton.mp ha]
  exact hb

theorem read_wellFormed (line : Text) {ls : List Text} (hls : ∀ l ∈ ls, '\n' ∉ l) :
    (read line ls).1.WellFormed := by
  unfold read
  split
  case h_1 =>
    refine .single ⟨by simp, fun l hl => ?_⟩ rfl
    obtain ⟨m, -, rfl⟩ := List.mem_map.mp hl
    exact Span.wellFormed_ofLine _
  case h_2 language ho =>
    refine .single (wellFormed_code (Opening.isWord_of_read?_fence ho) ?_ ?_) rfl
    · exact fun l hl => hls l ((List.takeWhile_prefix _).subset hl)
    · exact fun l hl => by simpa using of_mem_takeWhile hl
  case h_3 =>
    refine .single ⟨by simp, fun r hr => ?_⟩ rfl
    obtain ⟨l, -, rfl⟩ := List.mem_map.mp hr
    exact rocket_wellFormed l
  case h_4 target ho =>
    obtain ⟨t, rfl⟩ := Opening.eq_of_read?_embed ho
    exact .single ⟨Link.trim_read_address t, Link.not_mem_read_address t⟩ rfl
  case h_5 level t ho =>
    obtain ⟨-, -, -, hlow, hhigh⟩ := Opening.eq_of_heading? (Opening.fits_of_read? ho)
    exact .single ⟨hlow, hhigh, _, rfl, Span.wellFormed_ofLine t⟩ rfl
  case h_6 => exact .single trivial rfl
  case h_7 e _ => exact takeList_wellFormed e ls
  case h_8 => trivial
  case h_9 => exact Row.gather_wellFormed _
  case h_10 => exact Gallery.read_wellFormed _

theorem all_wellFormed {ls : List Text} (hls : ∀ l ∈ ls, '\n' ∉ l) :
    ∀ c ∈ all ls, c.WellFormed := by
  fun_induction all ls with
  | case1 => simp
  | case2 line ls _ ih => exact ih fun l hl => hls l (List.mem_cons_of_mem line hl)
  | case3 line ls _ ih =>
    have htail : ∀ l ∈ ls, '\n' ∉ l := fun l hl => hls l (List.mem_cons_of_mem line hl)
    intro c hc
    rcases List.mem_cons.mp hc with rfl | hc
    · exact read_wellFormed line htail
    · exact ih (fun l hl => htail l ((read_suffix line ls).subset hl)) c hc

/-- Once the documents inside a chunk are well formed, all of it is. -/
theorem WellFormed.toBlock {c : Chunk} (hc : c.WellFormed)
    (hinside : ∀ t ∈ c.texts, ∀ b ∈ Block.preorder (Block.ofText t), b.WellFormed) :
    ∀ b ∈ c.toBlock :: c.toBlock.inside, b.WellFormed := by
  intro b hb
  cases c with
  | block a => exact hc b hb
  | quote contents =>
    rcases List.mem_cons.mp hb with rfl | hb
    · trivial
    · exact hinside contents List.mem_cons_self b hb
  | table caption rows =>
    rcases List.mem_cons.mp hb with rfl | hb
    · intro row hrow
      obtain ⟨source, hsource, rfl⟩ := List.mem_map.mp hrow
      exact (hc source hsource).map fun _ => rfl
    · rw [Chunk.toBlock, Block.inside, Block.preorderRows_eq] at hb
      obtain ⟨row, hrow, hb⟩ := List.mem_flatMap.mp hb
      obtain ⟨source, hsource, rfl⟩ := List.mem_map.mp hrow
      rw [Block.preorderCells_eq, List.flatMap_map] at hb
      obtain ⟨cell, hcell, hb⟩ := List.mem_flatMap.mp hb
      refine hinside cell.contents ?_ b hb
      exact List.mem_flatMap.mpr ⟨source, hsource, List.mem_map.mpr ⟨cell, hcell, rfl⟩⟩
  | image layout images =>
    rcases List.mem_cons.mp hb with rfl | hb
    · intro e he
      obtain ⟨source, hsource, rfl⟩ := List.mem_map.mp he
      obtain ⟨hne, htrimmed, hbar, hbreak, hwidth⟩ := hc source hsource
      exact ⟨hne, htrimmed, hbar, hbreak, hwidth⟩
    · rw [Chunk.toBlock, Block.inside, Block.preorderEntries_eq, List.flatMap_map] at hb
      obtain ⟨e, he, hb⟩ := List.mem_flatMap.mp hb
      exact hinside e.description (List.mem_map.mpr ⟨e, he, rfl⟩) b hb

end Chunk

/-- Every text is read as a document whose blocks are all well formed, at any depth. -/
theorem Block.wellFormed_of_mem_preorder (text : Text) :
    ∀ b ∈ preorder (ofText text), b.WellFormed := by
  induction hn : text.length using Nat.strongRecOn generalizing text with
  | ind n ih =>
    subst hn
    intro b hb
    rw [ofText_eq, preorder_eq, List.flatMap_map] at hb
    obtain ⟨c, hc, hb⟩ := List.mem_flatMap.mp hb
    have hform := Chunk.all_wellFormed (fun l => not_mem_of_mem_lines) c hc
    refine hform.toBlock (fun t ht => ?_) b hb
    exact ih t.length (Chunk.length_lt_of_mem_document hc ht) t rfl

/-- Code in a quote, with a language and without a fence at its end. -/
theorem Block.wellFormed_of_mem_preorder_quote :
    .code (some ['c']) ['d', '\n'] ∈
        preorder (ofText ['>', '\x60', '\x60', '\x60', 'c', '\n', '>', 'd']) ∧
      WellFormed (.code (some ['c']) ['d', '\n']) := by
  have hcode : ofText ['\x60', '\x60', '\x60', 'c', '\n', 'd'] =
      [.code (some ['c']) ['d', '\n']] := by
    have hread : Chunk.read ['\x60', '\x60', '\x60', 'c'] [['d']] =
        (.block (.code (some ['c']) ['d', '\n']), []) := rfl
    exact Chunk.ofText_of_read rfl (by decide) hread
  have hquote : ofText ['>', '\x60', '\x60', '\x60', 'c', '\n', '>', 'd'] =
      [.quote [.code (some ['c']) ['d', '\n']]] := by
    have hread : Chunk.read ['>', '\x60', '\x60', '\x60', 'c'] [['>', 'd']] =
        (.quote ['\x60', '\x60', '\x60', 'c', '\n', 'd'], []) := rfl
    rw [← hcode]
    exact Chunk.ofText_of_read rfl (by decide) hread
  have hmem : .code (some ['c']) ['d', '\n'] ∈
      preorder (ofText ['>', '\x60', '\x60', '\x60', 'c', '\n', '>', 'd']) := by
    rw [hquote]
    exact List.mem_cons_of_mem _ List.mem_cons_self
  exact ⟨hmem, wellFormed_of_mem_preorder _ _ hmem⟩

end Wiki
end MarkupBridge
