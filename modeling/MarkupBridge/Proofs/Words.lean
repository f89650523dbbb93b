import MarkupBridge.Proofs.Lines

namespace MarkupBridge.Text

@[simp] theorem words_nil : words [] = [] := by rw [words]

theorem words_blank {c : Char} (hc : isBlank c = true) (t : Text) : words (c :: t) = words t := by
  rw [words, if_pos hc]

theorem words_trimStart (t : Text) : words (trimStart t) = words t := by
  induction t with
  | nil => rfl
  | cons c t ih =>
    cases hc : isBlank c with
    | true =>
      rw [words_blank hc, ← ih, trimStart, List.dropWhile_cons_of_pos hc]
      rfl
    | false => rw [trimStart, List.dropWhile_cons_of_neg (by simp [hc])]

theorem words_eq_nil_iff {t : Text} : words t = [] ↔ isBlankLine t = true := by
  induction t with
  | nil => simp [isBlankLine]
  | cons c t ih =>
    cases hc : isBlank c with
    | true => simpa [words_blank hc, isBlankLine, hc] using ih
    | false =>
      rw [words, if_neg (by simp [hc])]
      simp [isBlankLine, hc]

/-- The first word is all up to the first blank, and the words after it are those of the rest. -/
theorem words_eq_cons_iff {t w : Text} {ws : List Text} :
    words t = w :: ws ↔ ∃ rest, trimStart t = w ++ rest ∧ w ≠ [] ∧
      (∀ c ∈ w, isBlank c = false) ∧ (∀ c ∈ rest.head?, isBlank c = true) ∧ words rest = ws := by
  rw [← words_trimStart]
  have hhead : ∀ c ∈ (trimStart t).head?, isBlank c = false := by
    intro c hc
    rw [trimStart, head?_dropWhile] at hc
    simpa using List.find?_some hc
  constructor
  · intro h
    cases hu : trimStart t with
    | nil =>
      rw [hu, words_nil] at h
      cases h
    | cons c u =>
      have hc : isBlank c = false := hhead c (by rw [hu]; rfl)
      rw [hu, words, if_neg (by simp [hc])] at h
      obtain ⟨rfl, rfl⟩ := List.cons.inj h
      refine ⟨u.dropWhile (!isBlank ·), ?_, List.cons_ne_nil _ _, ?_, ?_, rfl⟩
      · rw [List.cons_append, List.takeWhile_append_dropWhile]
      · intro d hd
        rcases List.mem_cons.mp hd with rfl | hd
        · exact hc
        · simpa using List.all_eq_true.mp List.all_takeWhile d hd
      · intro d hd
        rw [head?_dropWhile] at hd
        simpa using List.find?_some hd
  · rintro ⟨rest, hu, hne, hw, hrest, rfl⟩
    cases w with
    | nil => exact absurd rfl hne
    | cons c w =>
      have hspan : (w ++ rest).takeWhile (!isBlank ·) = w ∧
          (w ++ rest).dropWhile (!isBlank ·) = rest :=
        takeWhile_append_of_head? (fun d hd => by simp [hw d (List.mem_cons_of_mem c hd)])
          fun d hd => by simp [hrest d hd]
      rw [hu, List.cons_append, words, if_neg (by simp [hw c List.mem_cons_self]), hspan.1, hspan.2]

/-- A word is a stretch of its text without blanks. -/
theorem mem_words {t w : Text} (h : w ∈ words t) :
    w ≠ [] ∧ (∀ c ∈ w, isBlank c = false) ∧ w <:+: t := by
  fun_induction words t with
  | case1 => cases h
  | case2 c t hc ih =>
    obtain ⟨hne, hw, hinfix⟩ := ih h
    exact ⟨hne, hw, hinfix.trans (List.suffix_cons c t).isInfix⟩
  | case3 c t hc ih =>
    rcases List.mem_cons.mp h with rfl | h
    · refine ⟨List.cons_ne_nil _ _, fun d hd => ?_, ?_⟩
      · rcases List.mem_cons.mp hd with rfl | hd
        · simpa using hc
        · simpa using List.all_eq_true.mp List.all_takeWhile d hd
      · exact (List.prefix_cons_inj c |>.mpr (List.takeWhile_prefix _)).isInfix
    · obtain ⟨hne, hw, hinfix⟩ := ih h
      exact ⟨hne, hw, hinfix.trans
        ((List.dropWhile_suffix _).trans (List.suffix_cons c t)).isInfix⟩

theorem isInfix_dropWhile {p : Char → Bool} {w t : Text} (hw : ∀ c ∈ w, p c = false)
    (h : w <:+: t) : w <:+: t.dropWhile p := by
  induction t with
  | nil => exact h
  | cons c t ih =>
    cases hc : p c with
    | false => rwa [List.dropWhile_cons_of_neg (by simp [hc])]
    | true =>
      rw [List.dropWhile_cons_of_pos hc]
      rcases List.infix_cons_iff.mp h with hprefix | hinfix
      · cases w with
        | nil => exact List.nil_infix
        | cons d w =>
          obtain rfl : d = c := (List.cons_prefix_cons.mp hprefix).1
          rw [hw d List.mem_cons_self] at hc
          cases hc
      · exact ih hinfix

/-- A stretch without blanks survives trimming. -/
theorem isInfix_trim {w t : Text} (hw : ∀ c ∈ w, isBlank c = false) (h : w <:+: t) :
    w <:+: trim t := by
  have hstart : w <:+: trimStart t := isInfix_dropWhile hw h
  rw [← List.reverse_infix] at hstart ⊢
  rw [trim, trimEnd, dropEndWhile, List.reverse_reverse]
  exact isInfix_dropWhile (fun c hc => hw c (List.mem_reverse.mp hc)) hstart

theorem trimEnd_append_blank {t : Text} (h : isBlankLine t = true) (u : Text) :
    trimEnd (u ++ t) = trimEnd u := by
  have hall : ∀ c ∈ t.reverse, isBlank c = true := fun c hc =>
    List.all_eq_true.mp h c (List.mem_reverse.mp hc)
  rw [trimEnd, dropEndWhile, List.reverse_append, List.dropWhile_append_of_pos hall]
  rfl

theorem trimEnd_append {t : Text} (h : isBlankLine t = false) (u : Text) :
    trimEnd (u ++ t) = u ++ trimEnd t := by
  have hne : (t.reverse.dropWhile isBlank).isEmpty = false := by
    obtain ⟨c, hc, hblank⟩ := List.all_eq_false.mp h
    have hmem := mem_dropWhile (by simpa using hblank) (List.mem_reverse.mpr hc)
    simpa using List.ne_nil_of_mem hmem
  simp [trimEnd, dropEndWhile, List.dropWhile_append, hne]

theorem trim_of_words_eq_nil {t : Text} (h : words t = []) : trim t = [] := by
  have hblank := words_eq_nil_iff.mp h
  cases ht : trim t with
  | nil => rfl
  | cons c u =>
    have hc : isBlank c = false := isBlank_of_head?_trim (by rw [ht]; rfl)
    have hmem : c ∈ t := (trim_isInfix t).subset (ht ▸ List.mem_cons_self)
    rw [List.all_eq_true.mp hblank c hmem] at hc
    cases hc

theorem trim_of_words_eq_singleton {t w : Text} (h : words t = [w]) : trim t = w := by
  obtain ⟨rest, hstart, hne, hw, -, hrest⟩ := words_eq_cons_iff.mp h
  rw [trim, hstart, trimEnd_append_blank (words_eq_nil_iff.mp hrest)]
  exact trimEnd_eq_self fun c hc => hw c (List.mem_of_getLast? hc)

/-- Between two words there is a blank that trimming does not reach. -/
theorem exists_blank_mem_trim {t w v : Text} {ws : List Text} (h : words t = w :: v :: ws) :
    ∃ c ∈ trim t, isBlank c = true := by
  obtain ⟨rest, hstart, -, -, hhead, hrest⟩ := words_eq_cons_iff.mp h
  cases rest with
  | nil =>
    rw [words_nil] at hrest
    cases hrest
  | cons c rest =>
    have hc : isBlank c = true := hhead c rfl
    have hmore : isBlankLine rest = false := by
      rw [words_blank hc] at hrest
      rw [← Bool.not_eq_true, ← words_eq_nil_iff, hrest]
      exact List.cons_ne_nil v ws
    refine ⟨c, ?_, hc⟩
    rw [trim, hstart, List.append_cons, trimEnd_append hmore]
    simp

end MarkupBridge.Text
