import MarkupBridge.Text.Blank
import MarkupBridge.Text.Line

namespace MarkupBridge.Text

/-- A text is the run of a character at its front, and the rest. -/
theorem eq_run_append (c : Char) (t : Text) :
    t = List.replicate (t.takeWhile (· == c)).length c ++ t.dropWhile (· == c) := by
  have hrun : t.takeWhile (· == c) = List.replicate (t.takeWhile (· == c)).length c := by
    refine List.eq_replicate_iff.mpr ⟨rfl, fun d hd => ?_⟩
    exact beq_iff_eq.mp (List.all_eq_true.mp List.all_takeWhile d hd)
  rw [← hrun, List.takeWhile_append_dropWhile]

theorem drop_takeWhile (p : α → Bool) (l : List α) :
    l.drop (l.takeWhile p).length = l.dropWhile p := by
  calc l.drop (l.takeWhile p).length
      = (l.takeWhile p ++ l.dropWhile p).drop (l.takeWhile p).length := by
        rw [List.takeWhile_append_dropWhile]
    _ = l.dropWhile p := List.drop_left

theorem not_mem_of_all {p : Char → Bool} {t : Text} (h : t.all p = true) {c : Char}
    (hc : p c = false) : c ∉ t := by
  intro hmem
  rw [List.all_eq_true.mp h c hmem] at hc
  cases hc

/-- A run is taken up to where it ends. -/
theorem takeWhile_append_of_head? {p : α → Bool} {run rest : List α}
    (hrun : ∀ a ∈ run, p a = true) (hrest : ∀ a ∈ rest.head?, p a = false) :
    (run ++ rest).takeWhile p = run ∧ (run ++ rest).dropWhile p = rest := by
  have hstop : rest.takeWhile p = [] ∧ rest.dropWhile p = rest := by
    cases rest with
    | nil => exact ⟨rfl, rfl⟩
    | cons a rest =>
      have ha : ¬ p a = true := by simp [hrest a rfl]
      exact ⟨List.takeWhile_cons_of_neg ha, List.dropWhile_cons_of_neg ha⟩
  rw [List.takeWhile_append_of_pos hrun, List.dropWhile_append_of_pos hrun, hstop.1, hstop.2,
    List.append_nil]
  exact ⟨rfl, rfl⟩

/-- What comes after a list has no part in a run that ends before it does, or there at the latest. -/
theorem takeWhile_append_of_dropWhile {p : α → Bool} {ls rest : List α}
    (h : ∀ a ∈ (ls.dropWhile p ++ rest).head?, p a = false) :
    (ls ++ rest).takeWhile p = ls.takeWhile p ∧
      (ls ++ rest).dropWhile p = ls.dropWhile p ++ rest := by
  have hls : ls ++ rest = ls.takeWhile p ++ (ls.dropWhile p ++ rest) := by
    rw [← List.append_assoc, List.takeWhile_append_dropWhile]
  rw [hls]
  exact takeWhile_append_of_head? (fun a ha => List.all_eq_true.mp List.all_takeWhile a ha) h

theorem split_of_not_mem {mark : Char} {t : Text} (h : mark ∉ t) : split mark t = [t] := by
  induction t with
  | nil => rfl
  | cons c t ih =>
    have hc : c ≠ mark := fun he => h (by simp [he])
    simp [split, hc, ih fun hm => h (List.mem_cons_of_mem _ hm)]

theorem split_append {mark : Char} {l : Text} (h : mark ∉ l) (t : Text) :
    split mark (l ++ mark :: t) = l :: split mark t := by
  induction l with
  | nil => simp [split]
  | cons c l ih =>
    have hc : c ≠ mark := fun he => h (by simp [he])
    simp [split, hc, ih fun hm => h (List.mem_cons_of_mem _ hm)]

theorem cutChar?_of_not_mem {mark : Char} {t : Text} (h : mark ∉ t) : cutChar? mark t = none := by
  induction t with
  | nil => rfl
  | cons c t ih =>
    rw [cutChar?, if_neg (Ne.symm (List.ne_of_not_mem_cons h)),
      ih (List.not_mem_of_not_mem_cons h)]
    rfl

theorem cutChar?_append {mark : Char} {t : Text} (h : mark ∉ t) (rest : Text) :
    cutChar? mark (t ++ mark :: rest) = some (t, rest) := by
  induction t with
  | nil => exact if_pos rfl
  | cons c t ih =>
    rw [List.cons_append, cutChar?, if_neg (Ne.symm (List.ne_of_not_mem_cons h)),
      ih (List.not_mem_of_not_mem_cons h)]
    rfl

theorem cut?_append {c : Char} {mark t : Text} (h : c ∉ t) (rest : Text) :
    cut? (c :: mark) (t ++ c :: mark ++ rest) = some (t, rest) := by
  have hmark : after? (c :: mark) (c :: mark ++ rest) = some rest :=
    after?_eq_some_iff.mpr rfl
  induction t with
  | nil =>
    rw [List.nil_append, List.cons_append, cut?, ← List.cons_append, hmark]
  | cons d t ih =>
    have hd : after? (c :: mark) (d :: (t ++ c :: mark ++ rest)) = none :=
      if_neg (List.ne_of_not_mem_cons h)
    rw [List.cons_append, List.cons_append, cut?, hd, ih (List.not_mem_of_not_mem_cons h)]
    rfl

theorem after?_append {mark : Text} {c : Char} (hc : c ∉ mark) (t rest : Text) :
    after? mark (t ++ c :: rest) = (after? mark t).map (· ++ c :: rest) := by
  induction mark generalizing t with
  | nil => rfl
  | cons m mark ih =>
    have hm : m ≠ c := Ne.symm (List.ne_of_not_mem_cons hc)
    cases t with
    | nil => exact if_neg hm
    | cons d t =>
      rw [List.cons_append, after?, after?]
      split
      · exact ih (List.not_mem_of_not_mem_cons hc) t
      · rfl

theorem startsWith_iff {mark t : Text} : startsWith mark t = true ↔ mark <+: t := by
  rw [startsWith, Option.isSome_iff_exists]
  exact exists_congr fun r => after?_eq_some_iff.trans eq_comm

theorem startsWith_of_isPrefix {mark t u : Text} (h : startsWith mark t = true) (hu : t <+: u) :
    startsWith mark u = true :=
  startsWith_iff.mpr ((startsWith_iff.mp h).trans hu)

theorem isInfix_join {mark l : Text} {ls : List Text} (h : l ∈ ls) : l <:+: join mark ls := by
  induction ls with
  | nil => simp at h
  | cons m ms ih =>
    cases ms with
    | nil => simp only [List.mem_singleton] at h; simp [join, h]
    | cons n ns =>
      rw [join]
      · rcases List.mem_cons.mp h with rfl | h
        · exact ⟨[], mark ++ join mark (n :: ns), by simp⟩
        · exact (ih h).trans (List.suffix_append _ _).isInfix
      · simp

theorem isInfix_of_mem_split {mark : Char} {t l : Text} (h : l ∈ split mark t) : l <:+: t :=
  join_split mark t ▸ isInfix_join h

theorem not_mem_of_mem_split {mark : Char} {t l : Text} (h : l ∈ split mark t) : mark ∉ l := by
  induction t generalizing l with
  | nil => simp [split] at h; simp [h]
  | cons c t ih =>
    unfold split at h
    split at h
    · rcases List.mem_cons.mp h with rfl | h
      · simp
      · exact ih h
    · next hc =>
      cases hs : split mark t with
      | nil => exact absurd hs (split_ne_nil mark t)
      | cons m ms =>
        rw [hs] at h
        rcases List.mem_cons.mp h with rfl | h
        · simp only [List.mem_cons, not_or]
          exact ⟨fun he => hc he.symm, ih (hs ▸ List.mem_cons_self)⟩
        · exact ih (hs ▸ List.mem_cons_of_mem _ h)

theorem trim_isInfix (t : Text) : trim t <:+: t :=
  (dropEndWhile_isPrefix _ _).isInfix.trans (List.dropWhile_suffix _).isInfix

/-- A stretch without the character it is parted at lies on one side of it. -/
theorem isInfix_of_isInfix_append {mark a b : Text} {c : Char} (hc : c ∉ mark)
    (h : mark <:+: a ++ c :: b) : mark <:+: a ∨ mark <:+: b := by
  obtain ⟨x, y, hxy⟩ := h
  rcases List.append_eq_append_iff.mp hxy with ⟨z, rfl, -⟩ | ⟨z, hz, hb⟩
  · exact .inl ⟨x, z, rfl⟩
  rcases List.append_eq_append_iff.mp hz with ⟨w, rfl, hw⟩ | ⟨w, rfl, hw⟩
  · cases z with
    | nil => exact .inl ⟨x, [], by simp [hw]⟩
    | cons d z =>
      cases hb
      exact absurd (by simp [hw]) hc
  · subst hw
    cases w with
    | nil =>
      cases mark with
      | nil => exact .inl (List.nil_infix)
      | cons d mark =>
        cases hb
        exact absurd List.mem_cons_self hc
    | cons d w =>
      cases hb
      exact .inr ⟨w, y, rfl⟩

theorem exists_isInfix_of_joinLines {mark : Text} (hn : '\n' ∉ mark) (hne : mark ≠ [])
    {ls : List Text} (h : mark <:+: joinLines ls) : ∃ l ∈ ls, mark <:+: l := by
  induction ls with
  | nil => exact absurd (List.eq_nil_of_infix_nil h) hne
  | cons l ls ih =>
    cases ls with
    | nil => exact ⟨l, by simp, h⟩
    | cons m ms =>
      rw [joinLines] at h
      · rcases isInfix_of_isInfix_append hn h with h | h
        · exact ⟨l, by simp, h⟩
        · obtain ⟨k, hk, hi⟩ := ih h
          exact ⟨k, List.mem_cons_of_mem _ hk, hi⟩
      · exact List.cons_ne_nil m ms

theorem dropReturn_isPrefix (l : Text) : dropReturn l <+: l := by
  unfold dropReturn
  split
  · exact List.dropLast_prefix l
  · exact List.prefix_refl l

/-- An ended line stands in front of the lines of what follows. -/
theorem lines_append {l : Text} (h : '\n' ∉ l) (t : Text) :
    lines (l ++ '\n' :: t) = dropReturn l :: lines t := by
  rw [lines, split_append h, lines]
  cases hs : split '\n' t with
  | nil => exact absurd hs (split_ne_nil _ t)
  | cons m ms => simp [endLines]

theorem mem_endLines {l : Text} {ls : List Text} (h : l ∈ endLines ls) :
    ∃ m ∈ ls, l <+: m := by
  induction ls with
  | nil => simp [endLines] at h
  | cons m ms ih =>
    cases ms with
    | nil =>
      unfold endLines at h
      split at h
      · simp at h
      · simp only [List.mem_singleton] at h
        exact ⟨m, by simp, h ▸ List.prefix_refl l⟩
    | cons n ns =>
      rw [endLines] at h
      · rcases List.mem_cons.mp h with rfl | h
        · exact ⟨m, by simp, dropReturn_isPrefix m⟩
        · obtain ⟨k, hk, hl⟩ := ih h
          exact ⟨k, List.mem_cons_of_mem _ hk, hl⟩
      · simp

theorem isInfix_of_mem_lines {t l : Text} (h : l ∈ lines t) : l <:+: t := by
  obtain ⟨m, hm, hl⟩ := mem_endLines h
  exact hl.isInfix.trans (isInfix_of_mem_split hm)

theorem not_mem_of_mem_lines {t l : Text} (h : l ∈ lines t) : '\n' ∉ l := by
  obtain ⟨m, hm, hstart⟩ := mem_endLines h
  exact fun hn => not_mem_of_mem_split hm (hstart.subset hn)

/-- Lines with a line feed after each of them. -/
def endedLines (ls : List Text) : Text := ls.flatMap (· ++ ['\n'])

@[simp] theorem endedLines_nil : endedLines [] = [] := rfl

@[simp] theorem endedLines_cons (l : Text) (ls : List Text) :
    endedLines (l :: ls) = l ++ '\n' :: endedLines ls := by
  simp [endedLines]

@[simp] theorem endedLines_append (ls ms : List Text) :
    endedLines (ls ++ ms) = endedLines ls ++ endedLines ms := by
  simp [endedLines]

/-- A line whose ending has no part of it: no line feed, and no carriage return last. -/
structure IsLine (l : Text) : Prop where
  unbroken : '\n' ∉ l
  noReturn : l.getLast? ≠ some '\r'

theorem IsLine.dropReturn {l : Text} (h : IsLine l) : Text.dropReturn l = l :=
  if_neg h.noReturn

/-- Ended lines are read back up to a carriage return at their ends, whatever comes after them. -/
theorem lines_endedLines_append {ls : List Text} (h : ∀ l ∈ ls, '\n' ∉ l) (t : Text) :
    lines (endedLines ls ++ t) = ls.map dropReturn ++ lines t := by
  induction ls with
  | nil => rfl
  | cons l ls ih =>
    rw [endedLines_cons, List.append_assoc, List.cons_append,
      lines_append (h l List.mem_cons_self), ih fun m hm => h m (List.mem_cons_of_mem l hm)]
    rfl

theorem lines_endedLines_of_unbroken {ls : List Text} (h : ∀ l ∈ ls, '\n' ∉ l) :
    lines (endedLines ls) = ls.map dropReturn := by
  have happend := lines_endedLines_append h []
  have hnil : lines [] = [] := rfl
  rwa [List.append_nil, hnil, List.append_nil] at happend

/-- Ended lines are read back as they are. -/
theorem lines_endedLines {ls : List Text} (h : ∀ l ∈ ls, IsLine l) :
    lines (endedLines ls) = ls := by
  rw [lines_endedLines_of_unbroken fun l hl => (h l hl).unbroken,
    List.map_congr_left fun l hl => (h l hl).dropReturn, List.map_id']

theorem isLine_of_mem_split {t l : Text} (h : '\r' ∉ t) (hl : l ∈ split '\n' t) : IsLine l :=
  ⟨not_mem_of_mem_split hl, fun hr =>
    h ((isInfix_of_mem_split hl).subset (List.mem_of_getLast? hr))⟩

/-- Without a carriage return at the very end, all that sets the lines of a text apart from its
stretches is an empty stretch after them. -/
theorem map_dropReturn_eq_endLines {ls : List Text}
    (h : ∀ l ∈ ls.getLast?, l.getLast? ≠ some '\r') :
    ls.map dropReturn = endLines ls ∨ ls.map dropReturn = endLines ls ++ [[]] := by
  induction ls with
  | nil => exact .inl rfl
  | cons l ls ih =>
    cases ls with
    | nil =>
      have hl : dropReturn l = l := if_neg (h l rfl)
      cases l <;> simp [endLines, hl]
    | cons m ms =>
      rcases ih h with he | he
      · exact .inl (congrArg (dropReturn l :: ·) he)
      · exact .inr (congrArg (dropReturn l :: ·) he)

theorem eq_endLines {ls : List Text} (h : ∀ l ∈ ls, l.getLast? ≠ some '\r') :
    ls = endLines ls ∨ ls = endLines ls ++ [[]] := by
  have hmap : ls.map dropReturn = ls :=
    (List.map_congr_left fun l hl => if_neg (h l hl)).trans (List.map_id ls)
  have hends := map_dropReturn_eq_endLines fun l hl => h l (List.mem_of_getLast? hl)
  rwa [hmap] at hends

/-- Whether or not a line feed ends a text, its lines are what stands between the line feeds. -/
theorem split_eq_lines {t : Text} (h : '\r' ∉ t) :
    split '\n' t = lines t ∨ split '\n' t = lines t ++ [[]] :=
  eq_endLines fun _ hl => (isLine_of_mem_split h hl).noReturn

/-- A mark between any two texts is one before each text after the first. -/
theorem join_cons (mark t : Text) (ts : List Text) :
    join mark (t :: ts) = t ++ ts.flatMap (mark ++ ·) := by
  induction ts generalizing t with
  | nil => exact (List.append_nil t).symm
  | cons u us ih =>
    show t ++ mark ++ join mark (u :: us) = _
    rw [ih, List.flatMap_cons, List.append_assoc, List.append_assoc]

/-- A mark after each text is one between any two of them and one more at the end. -/
theorem flatMap_append_eq_join (mark : Text) {ts : List Text} (h : ts ≠ []) :
    ts.flatMap (· ++ mark) = join mark ts ++ mark := by
  induction ts with
  | nil => exact absurd rfl h
  | cons t ts ih =>
    cases ts with
    | nil => simp [join]
    | cons u us =>
      rw [List.flatMap_cons, ih (List.cons_ne_nil u us)]
      show t ++ mark ++ (join mark (u :: us) ++ mark) = t ++ mark ++ join mark (u :: us) ++ mark
      rw [List.append_assoc _ _ mark]

theorem endedLines_eq_join {ls : List Text} (h : ls ≠ []) :
    endedLines ls = join ['\n'] ls ++ ['\n'] :=
  flatMap_append_eq_join ['\n'] h

theorem endedLines_split (t : Text) : endedLines (split '\n' t) = t ++ ['\n'] := by
  rw [endedLines_eq_join (split_ne_nil _ t), join_split]

/-- The last character of a trimmed text is not blank. -/
theorem isBlank_of_getLast?_trim {t : Text} {c : Char} (h : (trim t).getLast? = some c) :
    isBlank c = false := by
  have hhead : ((trimStart t).reverse.dropWhile isBlank).head? = some c := by
    rw [← List.getLast?_reverse]
    exact h
  have hnot := List.head?_dropWhile_not isBlank (trimStart t).reverse
  rw [hhead] at hnot
  exact hnot

theorem dropWhile_eq_self {p : Char → Bool} {t : Text} (h : ∀ c ∈ t.head?, p c = false) :
    t.dropWhile p = t := by
  cases t with
  | nil => rfl
  | cons c t => exact List.dropWhile_cons_of_neg (by simp [h c rfl])

theorem trimEnd_eq_self {t : Text} (h : ∀ c ∈ t.getLast?, isBlank c = false) : trimEnd t = t := by
  have hreverse : t.reverse.dropWhile isBlank = t.reverse := by
    refine dropWhile_eq_self fun c hc => h c ?_
    rwa [List.head?_reverse] at hc
  rw [trimEnd, dropEndWhile, hreverse, List.reverse_reverse]

/-- A text with no blank at either end is trimmed. -/
theorem trim_eq_self {t : Text} (hhead : ∀ c ∈ t.head?, isBlank c = false)
    (hlast : ∀ c ∈ t.getLast?, isBlank c = false) : trim t = t := by
  rw [trim, trimStart, dropWhile_eq_self hhead, trimEnd_eq_self hlast]

theorem isBlank_of_head?_trim {t : Text} {c : Char} (h : (trim t).head? = some c) :
    isBlank c = false := by
  obtain ⟨u, hu⟩ := List.head?_eq_some_iff.mp h
  obtain ⟨after, hafter⟩ := dropEndWhile_isPrefix isBlank (trimStart t)
  have hhead : (t.dropWhile isBlank).head? = some c := by
    rw [← trimStart, ← hafter, ← trimEnd, ← trim, hu]
    rfl
  have hnot := List.head?_dropWhile_not isBlank t
  rw [hhead] at hnot
  exact hnot

theorem trim_trim (t : Text) : trim (trim t) = trim t :=
  trim_eq_self (fun _ => isBlank_of_head?_trim) fun _ => isBlank_of_getLast?_trim

theorem trim_cons {c : Char} (hc : isBlank c = true) (t : Text) : trim (c :: t) = trim t := by
  rw [trim, trimStart, List.dropWhile_cons_of_pos hc]
  rfl

theorem mem_dropWhile {p : α → Bool} {a : α} {l : List α} (hp : p a = false) (h : a ∈ l) :
    a ∈ l.dropWhile p := by
  rw [← List.takeWhile_append_dropWhile (p := p) (l := l)] at h
  refine (List.mem_append.mp h).resolve_left fun hm => ?_
  have htrue := List.all_eq_true.mp List.all_takeWhile a hm
  rw [hp] at htrue
  cases htrue

/-- Nothing but blanks is trimmed off. -/
theorem mem_trim {c : Char} {t : Text} (hc : isBlank c = false) (h : c ∈ t) : c ∈ trim t := by
  have hstart := mem_dropWhile hc h
  exact List.mem_reverse.mpr (mem_dropWhile hc (List.mem_reverse.mpr hstart))

theorem trim_ne_nil {t : Text} (h : isBlankLine t = false) : trim t ≠ [] := by
  obtain ⟨c, hc, hblank⟩ := List.all_eq_false.mp h
  exact List.ne_nil_of_mem (mem_trim (by simpa using hblank) hc)

theorem trimEnd_concat {c : Char} (hc : isBlank c = true) (t : Text) :
    trimEnd (t ++ [c]) = trimEnd t := by
  simp [trimEnd, dropEndWhile, hc]

theorem trim_concat {c : Char} (hc : isBlank c = true) (t : Text) : trim (t ++ [c]) = trim t := by
  unfold trim
  rw [trimStart, List.dropWhile_append]
  split
  · next h =>
    rw [List.isEmpty_iff] at h
    rw [trimStart, h, List.dropWhile_cons_of_pos hc]
    rfl
  · exact trimEnd_concat hc _

theorem trim_dropReturn (t : Text) : trim (dropReturn t) = trim t := by
  unfold dropReturn
  split
  · next h =>
    obtain ⟨u, rfl⟩ := List.getLast?_eq_some_iff.mp h
    rw [List.dropLast_concat, trim_concat (by decide)]
  · rfl

theorem trimEnd_dropReturn (t : Text) : trimEnd (dropReturn t) = trimEnd t := by
  unfold dropReturn
  split
  · next h =>
    obtain ⟨u, rfl⟩ := List.getLast?_eq_some_iff.mp h
    rw [List.dropLast_concat, trimEnd_concat (by decide)]
  · rfl

theorem head?_dropWhile (p : Char → Bool) (t : Text) : (t.dropWhile p).head? = t.find? (!p ·) := by
  induction t with
  | nil => rfl
  | cons c t ih => cases hc : p c <;> simp [hc, ih]

/-- The last character of a trimmed text is the last one of the text that is not blank. -/
theorem getLast?_trim (t : Text) : (trim t).getLast? = t.reverse.find? (!isBlank ·) := by
  have hblanks : (t.takeWhile isBlank).reverse.find? (!isBlank ·) = none := by
    refine List.find?_eq_none.mpr fun c hc => ?_
    have hall := List.all_eq_true.mp List.all_takeWhile c (List.mem_reverse.mp hc)
    simp [hall]
  calc (trim t).getLast?
      = (trimStart t).reverse.find? (!isBlank ·) := by
        rw [trim, trimEnd, dropEndWhile, List.getLast?_reverse, head?_dropWhile]
    _ = (t.takeWhile isBlank ++ trimStart t).reverse.find? (!isBlank ·) := by
        rw [List.reverse_append, List.find?_append, hblanks, Option.or_none]
    _ = t.reverse.find? (!isBlank ·) := by rw [trimStart, List.takeWhile_append_dropWhile]

/-- A text that ends with more than blanks has nothing else at its end. -/
theorem getLast?_trim_append_ne {c : Char} {v : Text} (u : Text) (hv : isBlankLine v = false)
    (hc : c ∉ v) : (trim (u ++ v)).getLast? ≠ some c := by
  obtain ⟨d, hd, hblank⟩ := List.all_eq_false.mp hv
  have hfind : (v.reverse.find? (!isBlank ·)).isSome = true :=
    List.find?_isSome.mpr ⟨d, List.mem_reverse.mpr hd, by simpa using hblank⟩
  obtain ⟨e, he⟩ := Option.isSome_iff_exists.mp hfind
  rw [getLast?_trim, List.reverse_append, List.find?_append, he]
  intro heq
  cases heq
  exact hc (List.mem_reverse.mp (List.mem_of_find?_eq_some he))

theorem getLast?_append_of_ne_nil {t : Text} (u : Text) (h : t ≠ []) :
    (u ++ t).getLast? = t.getLast? := by
  rw [List.getLast?_append, List.getLast?_eq_some_getLast h]
  rfl

theorem dropReturn_append {t : Text} (u : Text) (h : t ≠ []) :
    dropReturn (u ++ t) = u ++ dropReturn t := by
  unfold dropReturn
  rw [getLast?_append_of_ne_nil u h]
  split
  · exact List.dropLast_append_of_ne_nil h
  · rfl

theorem joinLines_append (ls : List Text) (m : Text) (ms : List Text) :
    joinLines (ls ++ m :: ms) = endedLines ls ++ joinLines (m :: ms) := by
  induction ls with
  | nil => rfl
  | cons l ls ih =>
    have hcons : joinLines (l :: (ls ++ m :: ms)) = l ++ '\n' :: joinLines (ls ++ m :: ms) := by
      cases ls <;> rfl
    rw [List.cons_append, hcons, ih, endedLines_cons, List.append_assoc]
    rfl

theorem endedLines_eq_joinLines {ls : List Text} (h : ls ≠ []) :
    endedLines ls = joinLines ls ++ ['\n'] := by
  induction ls with
  | nil => exact absurd rfl h
  | cons l ls ih =>
    cases ls with
    | nil => exact endedLines_cons l []
    | cons m ms =>
      rw [endedLines_cons, ih (List.cons_ne_nil m ms)]
      exact (List.append_assoc l ('\n' :: joinLines (m :: ms)) ['\n']).symm

theorem split_joinLines {ls : List Text} (hne : ls ≠ []) (h : ∀ l ∈ ls, '\n' ∉ l) :
    split '\n' (joinLines ls) = ls := by
  induction ls with
  | nil => exact absurd rfl hne
  | cons l ls ih =>
    cases ls with
    | nil => exact split_of_not_mem (h l List.mem_cons_self)
    | cons m ms =>
      show split '\n' (l ++ '\n' :: joinLines (m :: ms)) = _
      rw [split_append (h l List.mem_cons_self),
        ih (List.cons_ne_nil m ms) fun k hk => h k (List.mem_cons_of_mem _ hk)]

theorem mem_joinLines {c : Char} {ls : List Text} (h : c ∈ joinLines ls) :
    c = '\n' ∨ ∃ l ∈ ls, c ∈ l := by
  have hne : ls ≠ [] := by
    rintro rfl
    cases h
  have hended : c ∈ endedLines ls := by
    rw [endedLines_eq_joinLines hne]
    exact List.mem_append_left _ h
  obtain ⟨l, hl, hc⟩ := List.mem_flatMap.mp hended
  rcases List.mem_append.mp hc with hc | hc
  · exact .inr ⟨l, hl, hc⟩
  · exact .inl (List.mem_singleton.mp hc)

/-- Lines that are joined are read back, unless the last one is empty. -/
theorem lines_joinLines {ls : List Text} (h : ∀ l ∈ ls, IsLine l)
    (hlast : ls.getLast? ≠ some []) : lines (joinLines ls) = ls := by
  by_cases hnil : ls = []
  · rw [hnil]
    rfl
  · rw [lines, split_joinLines hnil fun l hl => (h l hl).unbroken]
    rcases eq_endLines fun l hl => (h l hl).noReturn with he | he
    · exact he.symm
    · rw [he, List.getLast?_concat] at hlast
      exact absurd rfl hlast

theorem length_split (mark : Char) (t : Text) : (split mark t).length = t.count mark + 1 := by
  induction t with
  | nil => rfl
  | cons c t ih =>
    unfold split
    split
    · next hc => rw [hc, List.length_cons, ih, List.count_cons_self]
    · next hc =>
      rw [List.count_cons_of_ne hc]
      cases hs : split mark t with
      | nil => exact absurd hs (split_ne_nil mark t)
      | cons l ls => rwa [hs] at ih

theorem split_concat (mark : Char) (t : Text) :
    split mark (t ++ [mark]) = split mark t ++ [[]] := by
  induction t with
  | nil => simp [split]
  | cons c t ih =>
    rw [List.cons_append, split, split]
    split
    · rw [ih, List.cons_append]
    · rw [ih]
      cases hs : split mark t with
      | nil => exact absurd hs (split_ne_nil mark t)
      | cons l ls => rfl

/-- The empty rest after a last line feed is the only stretch that is no line. -/
theorem length_endLines_concat (ls : List Text) : (endLines (ls ++ [[]])).length = ls.length := by
  induction ls with
  | nil => rfl
  | cons l ls ih =>
    have hcons : endLines (l :: (ls ++ [[]])) = dropReturn l :: endLines (ls ++ [[]]) := by
      cases ls <;> rfl
    rw [List.cons_append, hcons, List.length_cons, ih, List.length_cons]

theorem count_endedLines (ls : List Text) :
    (endedLines ls).count '\n' = ls.length + ls.flatten.count '\n' := by
  induction ls with
  | nil => rfl
  | cons l ls ih =>
    rw [endedLines_cons, List.count_append, List.count_cons_self, ih, List.flatten_cons,
      List.count_append, List.length_cons]
    omega

/-- Between lines there is one line feed fewer than there are lines. -/
theorem count_joinLines {l : Text} {ls : List Text} (h : ∀ m ∈ l :: ls, '\n' ∉ m) :
    (joinLines (l :: ls)).count '\n' = ls.length := by
  have hflatten : '\n' ∉ (l :: ls).flatten := by
    intro hm
    obtain ⟨m, hm, hbreak⟩ := List.mem_flatten.mp hm
    exact h m hm hbreak
  have hcount := count_endedLines (l :: ls)
  rw [endedLines_eq_joinLines (List.cons_ne_nil l ls), List.count_append,
    List.count_eq_zero.mpr hflatten] at hcount
  exact Nat.succ.inj hcount

/-- Lines that are ended are as many as they are, and one more for each line feed inside them. -/
theorem length_lines_endedLines (ls : List Text) :
    (lines (endedLines ls)).length = ls.length + ls.flatten.count '\n' := by
  by_cases hnil : ls = []
  · rw [hnil]
    rfl
  · rw [← count_endedLines, endedLines_eq_join hnil, lines, split_concat, length_endLines_concat,
      length_split, List.count_append]
    rfl

theorem lines_ne_nil {t : Text} (h : '\r' ∉ t) (hne : t ≠ []) : lines t ≠ [] := by
  intro hnil
  have hjoin := join_split '\n' t
  rcases split_eq_lines h with hs | hs
  · exact split_ne_nil _ t (hs.trans hnil)
  · rw [hs, hnil] at hjoin
    exact hne hjoin.symm

theorem isBlankLine_of_mem {c : Char} {l : Text} (h : c ∈ l) (hc : isBlank c = false) :
    isBlankLine l = false := by
  refine List.all_eq_false.mpr ⟨c, h, ?_⟩
  simp [hc]

end MarkupBridge.Text
