import MarkupBridge.Proofs.Lines
import MarkupBridge.Proofs.Words
import MarkupBridge.Wiki.Opening

namespace MarkupBridge.Wiki
open Text

/-- How a list's lines are marked. -/
def Marker.sign : Marker → Text
  | .unordered => ['*']
  | .ordered => ['*', '.']
  | .done => ['*', 'v']
  | .todo => ['*', 'x']

/-- Tabs, the sign of the marker, a space and the text. -/
theorem Entry.eq_of_read? {line : Text} {e : Entry} (h : Entry.read? line = some e) :
    ∃ t, line = List.replicate e.depth '\t' ++ e.marker.sign ++ ' ' :: t ∧ e.text = trim t := by
  have hline := eq_run_append '\t' line
  unfold Entry.read? at h
  generalize line.dropWhile (· == '\t') = rest at h hline
  split at h
  all_goals first | cases h | obtain ⟨t, ht, rfl⟩ := Option.map_eq_some_iff.mp h
  all_goals
    rw [after?_eq_some_iff.mp ht] at hline
    exact ⟨t, by simpa [Marker.sign] using hline, rfl⟩

/-- The line of an entry begins with a tab or with its marker. -/
theorem Entry.exists_cons_of_read? {line : Text} {e : Entry} (h : Entry.read? line = some e) :
    ∃ c t, line = c :: t ∧ (c = '\t' ∨ c = '*') := by
  obtain ⟨t, rfl, -⟩ := Entry.eq_of_read? h
  cases e.depth with
  | zero => cases e.marker <;> exact ⟨_, _, rfl, .inr rfl⟩
  | succ k => exact ⟨_, _, rfl, .inl rfl⟩

/-- A line of a list is read back as it is put together. -/
theorem Entry.read?_line (depth : Nat) (marker : Marker) (t : Text) :
    Entry.read? (List.replicate depth '\t' ++ marker.sign ++ ' ' :: t) =
      some ⟨depth, marker, trim t⟩ := by
  obtain ⟨s, hs⟩ : ∃ s, marker.sign ++ ' ' :: t = '*' :: s := by
    cases marker <;> exact ⟨_, rfl⟩
  have htabs : ∀ c ∈ List.replicate depth '\t', (c == '\t') = true := fun c hc => by
    rw [List.eq_of_mem_replicate hc]
    rfl
  have hstar : ∀ c ∈ ('*' :: s).head?, (c == '\t') = false := fun c hc => by
    cases hc
    rfl
  obtain ⟨htake, hdrop⟩ := takeWhile_append_of_head? htabs hstar
  unfold Entry.read?
  rw [List.append_assoc, hs, htake, hdrop, List.length_replicate, ← hs]
  cases marker <;> rfl

/-- The ending of a line has no part in its entry. -/
theorem Entry.read?_dropReturn {line : Text} {e : Entry} (h : Entry.read? line = some e) :
    Entry.read? (dropReturn line) = some e := by
  obtain ⟨t, rfl, ht⟩ := Entry.eq_of_read? h
  cases t with
  | nil =>
    have hlast : dropReturn (List.replicate e.depth '\t' ++ e.marker.sign ++ [' ']) =
        List.replicate e.depth '\t' ++ e.marker.sign ++ [' '] := by
      rw [dropReturn_append _ (by decide)]
      rfl
    rw [hlast, h]
  | cons c t =>
    have hcons : ' ' :: c :: t = [' '] ++ c :: t := rfl
    rw [hcons, ← List.append_assoc, dropReturn_append _ (List.cons_ne_nil c t), List.append_assoc]
    rw [List.singleton_append, Entry.read?_line, trim_dropReturn, ← ht]

namespace Opening

/-- One to six equals signs, a space and the text. -/
theorem eq_of_heading? {line t : Text} {level : Nat} (h : heading? line = some (level, t)) :
    ∃ r, line = List.replicate level '=' ++ ' ' :: r ∧ t = trim r ∧ 1 ≤ level ∧ level ≤ 6 := by
  unfold heading? at h
  simp only [Option.ite_none_right_eq_some, Option.map_eq_some_iff, Prod.mk.injEq] at h
  obtain ⟨hl, r, hr, rfl, rfl⟩ := h
  rw [drop_takeWhile] at hr
  refine ⟨r, ?_, rfl, hl⟩
  conv => lhs; rw [eq_run_append '=' line, after?_eq_some_iff.mp hr]
  rfl

/-- What a line has to show for each opening. -/
def Fits (line : Text) : Opening → Prop
  | fence _ => isFence line = true
  | rocket => isRocket line = true
  | embed _ => startsWith ['<', '='] line = true
  | heading level t => heading? line = some (level, t)
  | rule => isRule line = true
  | entry e => Entry.read? line = some e
  | quote => isQuote line = true
  | table caption => table? line = some caption
  | image layout inside => image? line = some (layout, inside)

theorem fits_of_read? {line : Text} {o : Opening} (h : read? line = some o) : Fits line o := by
  unfold read? at h
  repeat' split at h
  case h_2 =>
    obtain ⟨⟨layout, inside⟩, hi, rfl⟩ := Option.map_eq_some_iff.mp h
    exact hi
  all_goals cases h
  all_goals simp_all [Fits, startsWith]

/-- Only a line with an open brace at its end opens a table. -/
theorem getLast?_of_table? {line : Text} {caption : Option Text} (h : table? line = some caption) :
    (trim line).getLast? = some '\x7b' := by
  simp only [table?, Option.bind_eq_some_iff, Option.ite_none_right_eq_some] at h
  obtain ⟨_, ⟨t, ht, hlast, -⟩, -⟩ := h
  have hne : t ≠ [] := by
    rintro rfl
    cases hlast
  rw [after?_eq_some_iff.mp ht, getLast?_append_of_ne_nil _ hne, hlast]

theorem mem_of_table? {line : Text} {caption : Option Text} (h : table? line = some caption) :
    '\x7b' ∈ line :=
  (trim_isInfix line).subset (List.mem_of_getLast? (getLast?_of_table? h))

theorem mem_of_image? {line inside : Text} {layout : Option Text}
    (h : image? line = some (layout, inside)) : '\x7b' ∈ line := by
  simp only [image?, Option.bind_eq_some_iff] at h
  obtain ⟨⟨a, b⟩, ⟨t, ht, hb⟩, -⟩ := h
  have hm : '\x7b' ∈ trimStart line := by
    rw [after?_eq_some_iff.mp ht, eq_of_cutChar? hb]
    simp
  exact (List.dropWhile_suffix _).subset hm

theorem inside_isSuffix {line inside : Text} {layout : Option Text}
    (h : image? line = some (layout, inside)) : inside <:+ line := by
  simp only [image?, Option.bind_eq_some_iff, Option.ite_none_right_eq_some] at h
  obtain ⟨⟨a, b⟩, ⟨t, ht, hb⟩, -, he⟩ := h
  obtain ⟨-, rfl⟩ := Prod.mk.inj (Option.some.inj he)
  have htrim : b <:+ trimStart line := by
    rw [after?_eq_some_iff.mp ht, eq_of_cutChar? hb]
    exact ⟨"img".toList ++ a ++ ['\x7b'], by simp⟩
  exact htrim.trans (List.dropWhile_suffix _)

theorem mem_of_startsWith {mark line : Text} {c : Char} (h : startsWith mark line = true)
    (hc : c ∈ mark) : c ∈ line :=
  (startsWith_iff.mp h).subset hc

/-- Characters of which every line has one that opens a block. -/
def signs : Text := ['\x60', '=', '<', '-', '*', '>', '\x7b']

theorem exists_mem_signs {line : Text} {o : Opening} (h : read? line = some o) :
    ∃ c ∈ line, c ∈ signs := by
  have hfits := fits_of_read? h
  cases o with
  | fence _ => exact ⟨'\x60', mem_of_startsWith hfits (by decide), by decide⟩
  | rocket => exact ⟨'=', mem_of_startsWith hfits (by decide), by decide⟩
  | embed _ => exact ⟨'<', mem_of_startsWith hfits (by decide), by decide⟩
  | heading level t =>
    obtain ⟨r, rfl, -, hlow, -⟩ := eq_of_heading? hfits
    have hmem : '=' ∈ List.replicate level '=' := List.mem_replicate.mpr ⟨by omega, rfl⟩
    exact ⟨'=', List.mem_append_left _ hmem, by decide⟩
  | rule =>
    obtain ⟨hlength, hall⟩ := Bool.and_eq_true_iff.mp hfits
    cases ht : trimEnd line with
    | nil =>
      rw [ht] at hlength
      cases hlength
    | cons c t =>
      have hmem : c ∈ trimEnd line := ht ▸ List.mem_cons_self
      have hc : c = '-' := beq_iff_eq.mp (List.all_eq_true.mp hall c hmem)
      exact ⟨c, (dropEndWhile_isPrefix _ _).subset hmem, by rw [hc]; decide⟩
  | entry e =>
    obtain ⟨t, rfl, -⟩ := Entry.eq_of_read? hfits
    have hmem : '*' ∈ e.marker.sign := by cases e.marker <;> exact List.mem_cons_self
    exact ⟨'*', List.mem_append_left _ (List.mem_append_right _ hmem), by decide⟩
  | quote => exact ⟨'>', mem_of_startsWith hfits (by decide), by decide⟩
  | table _ => exact ⟨'\x7b', mem_of_table? hfits, by decide⟩
  | image _ _ => exact ⟨'\x7b', mem_of_image? hfits, by decide⟩

theorem read?_eq_none {line : Text} (h : startsBlock line = false) : read? line = none := by
  rw [← Option.isNone_iff_eq_none, ← Option.not_isSome, isSome_read?, h]
  rfl

theorem startsBlock_of_signs {line : Text} (h : ∀ c ∈ line, c ∉ signs) :
    startsBlock line = false := by
  rw [← isSome_read?]
  cases hread : read? line with
  | none => rfl
  | some o =>
    obtain ⟨c, hc, hsign⟩ := exists_mem_signs hread
    exact absurd hsign (h c hc)

theorem heading?_written {depth : Nat} (h : 1 ≤ depth ∧ depth ≤ 6) (t : Text) :
    heading? (List.replicate depth '=' ++ ' ' :: t) = some (depth, trim t) := by
  have hrun : (List.replicate depth '=' ++ ' ' :: t).takeWhile (· == '=') =
      List.replicate depth '=' := by
    rw [List.takeWhile_append_of_pos fun c hc => by simp [List.eq_of_mem_replicate hc]]
    simp
  have hrest : (List.replicate depth '=' ++ ' ' :: t).drop depth = ' ' :: t :=
    List.drop_left' List.length_replicate
  simp only [heading?, hrun, List.length_replicate, h, and_self, if_true, hrest]
  rfl

theorem read?_heading {depth : Nat} (h : 1 ≤ depth ∧ depth ≤ 6) (t : Text) :
    read? (List.replicate depth '=' ++ ' ' :: t) = some (.heading depth (trim t)) := by
  have hheading := heading?_written h t
  obtain ⟨k, rfl⟩ : ∃ k, depth = k + 1 := ⟨depth - 1, by omega⟩
  rw [List.replicate_succ, List.cons_append] at hheading ⊢
  have hrocket : isRocket ('=' :: (List.replicate k '=' ++ ' ' :: t)) = false := by
    cases k <;> rfl
  unfold read?
  rw [if_neg (by simp [isFence, startsWith, after?]), if_neg (by simp [hrocket]), hheading]
  rfl

theorem isRule_eq_false {c : Char} (hc : c ≠ '-') (t : Text) : isRule (c :: t) = false := by
  obtain ⟨r, hr⟩ := dropEndWhile_isPrefix isBlank (c :: t)
  unfold isRule trimEnd
  cases hd : dropEndWhile isBlank (c :: t) with
  | nil => rfl
  | cons d u =>
    rw [hd] at hr
    have hdc : d = c := (List.cons.inj hr).1
    simp [hdc, hc]

/-- No other opening fits the line of an entry before that one is tried. -/
theorem read?_entry {line : Text} {e : Entry} (h : Entry.read? line = some e) :
    read? line = some (.entry e) := by
  obtain ⟨c, u, rfl, hc⟩ := Entry.exists_cons_of_read? h
  unfold read?
  rcases hc with rfl | rfl
  · rw [isRule_eq_false (by decide), h]
    rfl
  · rw [isRule_eq_false (by decide), h]
    rfl

theorem read?_quote (t : Text) : read? ('>' :: t) = some .quote := by
  unfold read?
  rw [isRule_eq_false (by decide)]
  rfl

/-- A language that the line of a fence can name. -/
def IsLanguage (t : Text) : Prop :=
  t ≠ [] ∧ trim t = t ∧ '\n' ∉ t ∧ t.head? ≠ some '\x60'

instance : DecidablePred IsLanguage := fun _ => inferInstanceAs (Decidable (_ ∧ _))

theorem read?_fence {lang : Option Text}
    (h : ∀ t ∈ lang, IsLanguage t) :
    read? ("\x60\x60\x60".toList ++ lang.getD []) = some (.fence lang) := by
  have hlang : nonempty? (trim (("\x60\x60\x60".toList ++ lang.getD []).dropWhile (· == '\x60'))) =
      lang := by
    cases lang with
    | none => rfl
    | some t =>
      obtain ⟨hne, htrim, -, hhead⟩ := h t rfl
      cases t with
      | nil => exact absurd rfl hne
      | cons c t =>
        have hc : c ≠ '\x60' := fun he => hhead (congrArg some he)
        show nonempty? (trim ((c :: t).dropWhile (· == '\x60'))) = _
        rw [List.dropWhile_cons_of_neg (by simpa using hc), htrim]
        rfl
  unfold read?
  rw [if_pos (by rfl), hlang]

/-- The layout of an image whose brace stands after `t`: `img` and at most one more word. -/
def layout? (t : Text) : Option (Option Text) :=
  match words t with
  | [w] => if w = "img".toList then some none else none
  | [w, layout] => if w = "img".toList then some (some layout) else none
  | _ => none

theorem head?_all_isBlank {t : Text} :
    t.head?.all isBlank = true ↔ ∀ c ∈ t.head?, isBlank c = true := by
  cases t <;> simp

theorem layout?_of_words_ne {t : Text} (h : (words t).head? ≠ some "img".toList) :
    layout? t = none := by
  unfold layout?
  split
  · next hw => exact if_neg fun he => h (by rw [hw, he]; rfl)
  · next hw => exact if_neg fun he => h (by rw [hw, he]; rfl)
  · rfl

theorem layout?_eq (t : Text) :
    layout? t = (after? "img".toList (trimStart t)).bind fun l =>
      if l.head?.all isBlank && (trim l).all (!isBlank ·) then some (nonempty? (trim l))
      else none := by
  -- The reader looks for a blank after `img` and for none in what is left of the layout.
  by_cases himg : (words t).head? = some "img".toList
  · obtain ⟨ws, hwords⟩ := List.head?_eq_some_iff.mp himg
    obtain ⟨l, hstart, -, -, hhead, rfl⟩ := words_eq_cons_iff.mp hwords
    rw [after?_eq_some_iff.mpr hstart, Option.bind_some, head?_all_isBlank.mpr hhead,
      Bool.true_and, layout?, hwords]
    cases hl : words l with
    | nil =>
      rw [trim_of_words_eq_nil hl]
      rfl
    | cons v vs =>
      cases vs with
      | nil =>
        obtain ⟨hne, hv, -⟩ := mem_words (hl ▸ List.mem_cons_self : v ∈ words l)
        have hall : v.all (!isBlank ·) = true := List.all_eq_true.mpr fun c hc => by simp [hv c hc]
        have hnonempty : nonempty? v = some v := if_neg (by simpa using hne)
        rw [trim_of_words_eq_singleton hl, hall, hnonempty]
        rfl
      | cons u us =>
        obtain ⟨c, hc, hblank⟩ := exists_blank_mem_trim hl
        have hall : (trim l).all (!isBlank ·) = false :=
          List.all_eq_false.mpr ⟨c, hc, by simp [hblank]⟩
        rw [hall]
        rfl
  · rw [layout?_of_words_ne himg]
    cases hafter : after? "img".toList (trimStart t) with
    | none => rfl
    | some l =>
      have hhead : l.head?.all isBlank = false := by
        rw [← Bool.not_eq_true, head?_all_isBlank]
        intro hhead
        have hall : "img".toList.all (!isBlank ·) = true := rfl
        have hblank : ∀ c ∈ "img".toList, isBlank c = false := fun c hc => by
          simpa using List.all_eq_true.mp hall c hc
        have hwords := words_eq_cons_iff.mpr ⟨l, after?_eq_some_iff.mp hafter, by decide, hblank,
          hhead, rfl⟩
        rw [hwords] at himg
        exact himg rfl
      rw [Option.bind_some, hhead]
      rfl

/-- The words before its first brace tell whether a line opens an image. -/
theorem image?_append {t : Text} (ht : '\x7b' ∉ t) (inside : Text) :
    image? (t ++ '\x7b' :: inside) = (layout? t).map (·, inside) := by
  have hstart : trimStart (t ++ '\x7b' :: inside) = trimStart t ++ '\x7b' :: inside := by
    rw [trimStart, List.dropWhile_append]
    split
    · next h =>
      rw [trimStart, List.isEmpty_iff.mp h]
      rfl
    · rfl
  rw [image?, layout?_eq, hstart, after?_append (by decide)]
  cases hafter : after? "img".toList (trimStart t) with
  | none => rfl
  | some l =>
    have hl : '\x7b' ∉ l := by
      intro hm
      have hmem : '\x7b' ∈ trimStart t := by
        rw [after?_eq_some_iff.mp hafter]
        exact List.mem_append_right _ hm
      exact ht ((List.dropWhile_suffix isBlank).subset hmem)
    simp only [Option.map_some, Option.bind_some, cutChar?_append hl]
    split <;> rfl

theorem startsWith_dropReturn {mark line : Text} (hmark : mark.getLast? ≠ some '\r')
    (h : startsWith mark line = true) : startsWith mark (dropReturn line) = true := by
  obtain ⟨r, rfl⟩ := startsWith_iff.mp h
  refine startsWith_iff.mpr ?_
  cases r with
  | nil =>
    have hself : dropReturn mark = mark := if_neg hmark
    exact ⟨[], by rw [List.append_nil, hself]⟩
  | cons c r =>
    rw [dropReturn_append mark (List.cons_ne_nil c r)]
    exact List.prefix_append mark _

theorem dropReturn_cons {c : Char} (hc : c ≠ '\r') (t : Text) :
    dropReturn (c :: t) = c :: dropReturn t := by
  cases t with
  | nil => exact if_neg fun h => hc (Option.some.inj h)
  | cons d t => exact dropReturn_append [c] (List.cons_ne_nil d t)

/-- A line opens a block whether or not a carriage return is taken off its end. -/
theorem startsBlock_dropReturn {line : Text} (h : startsBlock line = true) :
    startsBlock (dropReturn line) = true := by
  rw [← isSome_read?] at h
  obtain ⟨o, ho⟩ := Option.isSome_iff_exists.mp h
  have hfits := fits_of_read? ho
  cases o with
  | fence language =>
    have hfence : isFence (dropReturn line) = true := startsWith_dropReturn (by decide) hfits
    simp [startsBlock, hfence]
  | rocket =>
    have hrocket : isRocket (dropReturn line) = true := startsWith_dropReturn (by decide) hfits
    simp [startsBlock, hrocket]
  | embed target => simp [startsBlock, startsWith_dropReturn (by decide) hfits]
  | heading level t =>
    obtain ⟨r, hline, -, hlevel⟩ := eq_of_heading? hfits
    have hdrop : dropReturn line = List.replicate level '=' ++ ' ' :: dropReturn r := by
      rw [hline, dropReturn_append _ (List.cons_ne_nil ' ' r), dropReturn_cons (by decide)]
    simp [startsBlock, hdrop, heading?_written hlevel]
  | rule =>
    have hrule : isRule (dropReturn line) = isRule line := by
      rw [isRule, isRule, trimEnd_dropReturn]
    simp [startsBlock, hrule.trans hfits]
  | entry e => simp [startsBlock, Entry.read?_dropReturn hfits]
  | quote =>
    have hquote : isQuote (dropReturn line) = true := startsWith_dropReturn (by decide) hfits
    simp [startsBlock, hquote]
  | table caption =>
    have htable : table? (dropReturn line) = table? line := by rw [table?, table?, trim_dropReturn]
    simp [startsBlock, htable.trans hfits]
  | image layout inside =>
    obtain ⟨t, r, hline, ht⟩ := List.eq_append_cons_of_mem (mem_of_image? hfits)
    have himage : image? (t ++ '\x7b' :: r) = some (layout, inside) := hline ▸ hfits
    rw [image?_append ht] at himage
    obtain ⟨l, hl, -⟩ := Option.map_eq_some_iff.mp himage
    have hdrop : dropReturn line = t ++ '\x7b' :: dropReturn r := by
      rw [hline, dropReturn_append _ (List.cons_ne_nil _ r), dropReturn_cons (by decide)]
    simp [startsBlock, hdrop, image?_append ht, hl]

end Opening

end MarkupBridge.Wiki
