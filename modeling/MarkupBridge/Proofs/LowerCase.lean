import MarkupBridge.Markdown.Character
import MarkupBridge.Proofs.Lines

namespace MarkupBridge.Text
open Markdown

/-- No letter that the first run gives is one that the second takes. -/
def CaseRun.isApart (r q : CaseRun) : Bool :=
  (r.target + (r.last - r.first)).blt q.first || q.last.blt r.target
    || ((r.first == r.last || r.step == 2) && q.step == 2 && (r.target + q.first) % 2 == 1)

theorem CaseRun.map?_of_isApart {r q : CaseRun} (h : r.isApart q = true) {n m : Nat}
    (hm : r.map? n = some m) : q.map? m = none := by
  unfold isApart at h
  unfold map? at hm ⊢
  split at hm
  · next hn =>
    cases hm
    refine if_neg ?_
    simp only [Bool.or_eq_true, Bool.and_eq_true, Nat.blt_eq, decide_eq_true_eq,
      beq_iff_eq] at h hn ⊢
    rcases h with (h | h) | ⟨⟨hr | hr, hq⟩, hodd⟩
    · omega
    · omega
    -- interleaved runs: what the one gives and what the other takes differ in parity
    · rw [hq]
      omega
    · rw [hr] at hn
      rw [hq]
      omega
  · cases hm

theorem isApart_lowerRuns : (lowerRuns.all fun r => lowerRuns.all r.isApart) = true := by
  decide +kernel

/-- Where the table has no letters: ASCII, the blanks, `İ` and the surrogates. -/
def gaps : List (Nat × Nat) :=
  [(0, 0x7F), (0x85, 0x85), (0xA0, 0xA0), (0x130, 0x130), (0x1680, 0x1680), (0x2000, 0x200A),
    (0x2028, 0x2029), (0x202F, 0x202F), (0x205F, 0x205F), (0x3000, 0x3000), (0xD800, 0xDFFF)]

/-- The numbers from `first` to `last` are in none of the gaps. -/
def IsClear (first last : Nat) : Prop := ∀ g ∈ gaps, last < g.1 ∨ g.2 < first

instance (first last : Nat) : Decidable (IsClear first last) :=
  inferInstanceAs (Decidable (∀ g ∈ gaps, _))

theorem IsClear.mono {first last n : Nat} (h : IsClear first last) (hfirst : first ≤ n)
    (hlast : n ≤ last) : IsClear n n :=
  fun g hg => (h g hg).imp (Nat.lt_of_le_of_lt hlast) fun hlt => Nat.lt_of_lt_of_le hlt hfirst

/-- The Kelvin sign alone has a lower case in ASCII. -/
theorem isClear_lowerRuns : ∀ r ∈ lowerRuns, r.target + (r.last - r.first) < 0x110000 ∧
    IsClear r.first r.last ∧ (IsClear r.target (r.target + (r.last - r.first)) ∨
      r.first = r.last ∧ r.target = 'k'.toNat) := by
  decide +kernel

theorem IsClear.le {n : Nat} (h : IsClear n n) : 0x80 ≤ n := by
  have hascii := h (0, 0x7F) (by decide)
  omega

theorem IsClear.toNat_ofNat {n : Nat} (h : IsClear n n) (hn : n < 0x110000) :
    (Char.ofNat n).toNat = n := by
  have hsurrogate := h (0xD800, 0xDFFF) (by decide)
  have hvalid : n.isValidChar := by
    unfold Nat.isValidChar
    omega
  rw [Char.ofNat, dif_pos hvalid]
  rfl

theorem IsClear.isBlank {c : Char} (h : IsClear c.toNat c.toNat) : isBlank c = false := by
  simp only [IsClear, gaps, List.forall_mem_cons] at h
  simp only [Text.isBlank, Bool.or_eq_false_iff, Bool.and_eq_false_iff, decide_eq_false_iff_not,
    beq_eq_false_iff_ne]
  omega

/-- A character that is in lower case already. -/
structure IsLower (c : Char) : Prop where
  ne_sigma : c ≠ 'Σ'
  lowerChar_eq : lowerChar c = [c]

instance : DecidablePred IsLower := fun c =>
  decidable_of_iff (c ≠ 'Σ' ∧ lowerChar c = [c])
    ⟨fun h => ⟨h.1, h.2⟩, fun h => ⟨h.ne_sigma, h.lowerChar_eq⟩⟩

/-- A lower case of a character as it stands in some text. -/
structure IsLowerOf (p : Text) (c : Char) : Prop where
  ne_nil : p ≠ []
  lower : ∀ d ∈ p, IsLower d
  blank : ∀ d ∈ p, isBlank d = isBlank c
  mark : (isAsciiPunctuation c = true ∨ ∃ d ∈ p, isAsciiPunctuation d = true) → p = [c]

theorem isLowerOf_singleton {c d : Char} (hlower : IsLower d) (hblank : isBlank d = isBlank c)
    (hmark : isAsciiPunctuation c = true ∨ isAsciiPunctuation d = true → d = c) :
    IsLowerOf [d] c where
  ne_nil := List.cons_ne_nil d []
  lower := by simpa using hlower
  blank := by simpa using hblank
  mark h := by simpa using hmark (by simpa using h)

theorem lt_of_isAsciiPunctuation {c : Char} (h : isAsciiPunctuation c = true) :
    c.toNat < 0x80 := by
  have hlast : c ≤ '~' := by
    simp only [isAsciiPunctuation, Bool.or_eq_true, Bool.and_eq_true, decide_eq_true_eq] at h
    rcases h with ((h | h) | h) | h <;> exact Char.le_trans h.2 (by decide)
  exact Nat.lt_succ_of_le (Nat.le_succ_of_le (UInt32.le_iff_toNat_le.mp hlast))

/-- What holds of all characters of ASCII, checked for each of them. -/
@[elab_as_elim]
theorem forall_ascii {p : Char → Prop} {c : Char} (hc : c.toNat < 0x80)
    (h : ∀ n < 0x80, p (Char.ofNat n)) : p c := by
  have hp := h c.toNat hc
  rwa [Char.ofNat_toNat] at hp

theorem toLower_ascii {c : Char} (h : c.toNat < 0x80) :
    c.toLower.toNat < 0x80 ∧ c.toLower.toLower = c.toLower ∧ isBlank c.toLower = isBlank c ∧
      (isAsciiPunctuation c = true ∨ isAsciiPunctuation c.toLower = true → c.toLower = c) :=
  forall_ascii h (by decide)

theorem isLower_of_lt {c : Char} (h : c.toNat < 0x80) (hlower : c.toLower = c) : IsLower c where
  ne_sigma := by
    rintro rfl
    exact absurd h (by decide)
  lowerChar_eq := by rw [lowerChar, if_pos h, hlower]

theorem isLowerOf_ascii {c : Char} (h : c.toNat < 0x80) : IsLowerOf [c.toLower] c := by
  obtain ⟨hlt, hlower, hblank, hmark⟩ := toLower_ascii h
  exact isLowerOf_singleton (isLower_of_lt hlt hlower) hblank hmark

theorem isAsciiPunctuation_of_le {c : Char} (h : 0x80 ≤ c.toNat) :
    isAsciiPunctuation c = false :=
  Bool.eq_false_iff.mpr fun hc => Nat.not_lt.mpr h (lt_of_isAsciiPunctuation hc)

theorem lowerChar_of_le {c : Char} (hle : 0x80 ≤ c.toNat) (hne : c ≠ 'İ') :
    lowerChar c = [((lowerRuns.findSome? (·.map? c.toNat)).map Char.ofNat).getD c] := by
  rw [lowerChar, if_neg (Nat.not_lt.mpr hle), if_neg hne]

/-- Out of ASCII a character that the table lacks is in lower case. -/
theorem isLower_of_le {c : Char} (hle : 0x80 ≤ c.toNat) (hne : c ≠ 'İ')
    (h : lowerRuns.findSome? (·.map? c.toNat) = none) : IsLower c where
  ne_sigma := by
    rintro rfl
    exact absurd h (by decide)
  lowerChar_eq := by rw [lowerChar_of_le hle hne, h]; rfl

/-- Where a letter of the table and its lower case lie. -/
theorem CaseRun.isClear_of_map? {r : CaseRun} (hr : r ∈ lowerRuns) {n m : Nat}
    (h : r.map? n = some m) :
    IsClear n n ∧ m < 0x110000 ∧ (IsClear m m ∨ m = 'k'.toNat) := by
  obtain ⟨hvalid, hsource, htarget⟩ := isClear_lowerRuns r hr
  unfold map? at h
  split at h
  · next hn =>
    simp only [Bool.and_eq_true, decide_eq_true_eq] at hn
    cases h
    refine ⟨hsource.mono hn.1.1 hn.1.2, by omega, htarget.imp (fun hclear => ?_) fun hk => ?_⟩
    · exact hclear.mono (by omega) (by omega)
    · omega
  · cases h

/-- What the table gives, it does not take again. -/
theorem CaseRun.isLower_of_map? {r : CaseRun} (hr : r ∈ lowerRuns) {n m : Nat}
    (h : r.map? n = some m) (hclear : IsClear m m) : IsLower (Char.ofNat m) := by
  have htoNat := hclear.toNat_ofNat (isClear_of_map? hr h).2.1
  refine isLower_of_le (htoNat.symm ▸ hclear.le) (fun he => ?_) ?_
  · have hdotted := hclear (0x130, 0x130) (by decide)
    have hm : 0x130 = m := by rwa [he] at htoNat
    omega
  · rw [htoNat]
    refine List.findSome?_eq_none_iff.mpr fun q hq => map?_of_isApart ?_ h
    exact List.all_eq_true.mp (List.all_eq_true.mp isApart_lowerRuns r hr) q hq

/-- A letter of the table with its lower case. -/
theorem isLowerOf_table {c : Char} {m : Nat}
    (h : lowerRuns.findSome? (·.map? c.toNat) = some m) : IsLowerOf [Char.ofNat m] c := by
  obtain ⟨r, hr, hm⟩ := List.exists_of_findSome?_eq_some h
  obtain ⟨hc, hvalid, hd | rfl⟩ := CaseRun.isClear_of_map? hr hm
  · have hclear : IsClear (Char.ofNat m).toNat (Char.ofNat m).toNat :=
      (hd.toNat_ofNat hvalid).symm ▸ hd
    refine isLowerOf_singleton (CaseRun.isLower_of_map? hr hm hd) ?_ ?_
    · rw [hc.isBlank, hclear.isBlank]
    · simp [isAsciiPunctuation_of_le hc.le, isAsciiPunctuation_of_le hclear.le]
  · refine isLowerOf_singleton (by decide) ?_ ?_
    · rw [hc.isBlank]
      rfl
    · rw [isAsciiPunctuation_of_le hc.le]
      rintro (hk | hk) <;> cases hk

/-- The one character that becomes two. -/
theorem isLowerOf_dotted : IsLowerOf (lowerChar 'İ') 'İ' := by
  have hpair : ∀ d ∈ ['i', '\u0307'],
      IsLower d ∧ isBlank d = isBlank 'İ' ∧ isAsciiPunctuation d = false := by
    intro d hd
    simp only [List.mem_cons, List.not_mem_nil, or_false] at hd
    rcases hd with rfl | rfl <;> decide
  refine ⟨List.cons_ne_nil _ _, fun d hd => (hpair d hd).1, fun d hd => (hpair d hd).2.1, ?_⟩
  rintro (h | ⟨d, hd, h⟩)
  · exact absurd h (by decide)
  · rw [(hpair d hd).2.2] at h
    cases h

theorem isLowerOf_lowerChar {c : Char} (hc : c ≠ 'Σ') : IsLowerOf (lowerChar c) c := by
  by_cases hascii : c.toNat < 0x80
  · rw [lowerChar, if_pos hascii]
    exact isLowerOf_ascii hascii
  have hle := Nat.le_of_not_lt hascii
  by_cases hdotted : c = 'İ'
  · subst hdotted
    exact isLowerOf_dotted
  rw [lowerChar_of_le hle hdotted]
  cases h : lowerRuns.findSome? (·.map? c.toNat) with
  | some m => exact isLowerOf_table h
  | none => exact isLowerOf_singleton (isLower_of_le hle hdotted h) rfl fun _ => rfl

/-- A text beside a lower case of it, one character at a time. -/
inductive Lowers : Text → Text → Prop where
  | nil : Lowers [] []
  | cons {c : Char} {t p u : Text} (head : IsLowerOf p c) (tail : Lowers t u) :
      Lowers (c :: t) (p ++ u)

theorem lowers_lowerAfter (before t : Text) : Lowers t (lowerAfter before t) := by
  induction t generalizing before with
  | nil => exact .nil
  | cons c t ih =>
    rw [lowerAfter]
    refine .cons ?_ (ih (c :: before))
    -- a sigma at the end of a word is the final one
    split
    · next hc =>
      subst hc
      split <;> exact isLowerOf_singleton (by decide) (by decide) (by decide)
    · next hc => exact isLowerOf_lowerChar hc

theorem lowers_lower (t : Text) : Lowers t (lower t) := lowers_lowerAfter [] t

namespace Lowers

theorem isLower {t u : Text} (h : Lowers t u) : ∀ c ∈ u, IsLower c := by
  induction h with
  | nil => exact fun c hc => absurd hc List.not_mem_nil
  | cons head tail ih => exact fun c hc => (List.mem_append.mp hc).elim (head.lower c) (ih c)

/-- A punctuation mark stays, and comes of nothing else. -/
theorem mem_iff {t u : Text} (h : Lowers t u) {m : Char} (hm : isAsciiPunctuation m = true) :
    m ∈ u ↔ m ∈ t := by
  induction h with
  | nil => rfl
  | cons head tail ih =>
    rw [List.mem_append, List.mem_cons, ih]
    refine or_congr_left ⟨fun hmem => ?_, ?_⟩
    · rw [head.mark (.inr ⟨m, hmem, hm⟩)] at hmem
      exact List.mem_singleton.mp hmem
    · rintro rfl
      rw [head.mark (.inl hm)]
      exact List.mem_singleton_self m

theorem isPrefix_iff {t u mark : Text} (h : Lowers t u)
    (hmark : mark.all isAsciiPunctuation = true) : mark <+: u ↔ mark <+: t := by
  induction h generalizing mark with
  | nil => rfl
  | @cons c t p u head tail ih =>
    cases mark with
    | nil => simp
    | cons m mark =>
      obtain ⟨hm, hrest⟩ := Bool.and_eq_true_iff.mp hmark
      obtain ⟨d, p', rfl⟩ := List.exists_cons_of_ne_nil head.ne_nil
      have hone : m = d ∨ m = c → d :: p' = [c] := by
        rintro (rfl | rfl)
        · exact head.mark (.inr ⟨m, List.mem_cons_self, hm⟩)
        · exact head.mark (.inl hm)
      rw [List.cons_append, List.cons_prefix_cons, List.cons_prefix_cons, ← ih hrest]
      constructor
      · rintro ⟨hd, hp⟩
        obtain ⟨rfl, rfl⟩ := List.cons.inj (hone (.inl hd))
        exact ⟨hd, hp⟩
      · rintro ⟨hc, hp⟩
        obtain ⟨rfl, rfl⟩ := List.cons.inj (hone (.inr hc))
        exact ⟨hc, hp⟩

theorem head?_isBlank {t u : Text} (h : Lowers t u) :
    u.head?.map isBlank = t.head?.map isBlank := by
  cases h with
  | nil => rfl
  | cons head tail =>
    obtain ⟨d, p, rfl⟩ := List.exists_cons_of_ne_nil head.ne_nil
    exact congrArg some (head.blank d List.mem_cons_self)

theorem getLast?_isBlank {t u : Text} (h : Lowers t u) :
    u.getLast?.map isBlank = t.getLast?.map isBlank := by
  induction h with
  | nil => rfl
  | @cons c t p u head tail ih =>
    have hp : p.getLast?.map isBlank = some (isBlank c) := by
      rw [List.getLast?_eq_some_getLast head.ne_nil]
      exact congrArg some (head.blank _ (List.getLast_mem head.ne_nil))
    rw [List.getLast?_append, Option.map_or, ih, hp, List.getLast?_cons]
    cases t.getLast? <;> rfl

end Lowers

theorem lowerAfter_eq_self {t : Text} (h : ∀ c ∈ t, IsLower c) (before : Text) :
    lowerAfter before t = t := by
  induction t generalizing before with
  | nil => rfl
  | cons c t ih =>
    obtain ⟨hc, ht⟩ := List.forall_mem_cons.mp h
    rw [lowerAfter, if_neg hc.ne_sigma, hc.lowerChar_eq, ih ht]
    rfl

/-- A text in lower case is its own lower case. -/
theorem lower_eq_self {t : Text} (h : ∀ c ∈ t, IsLower c) : lower t = t := lowerAfter_eq_self h []

theorem startsWith_lower {mark : Text} (h : mark.all isAsciiPunctuation = true) (t : Text) :
    startsWith mark (lower t) = startsWith mark t := by
  rw [Bool.eq_iff_iff, startsWith_iff, startsWith_iff]
  exact (lowers_lower t).isPrefix_iff h

/-- A text is trimmed if its ends are like those of a trimmed text. -/
theorem trim_eq_self_of_ends {t u : Text} (hhead : t.head?.map isBlank = u.head?.map isBlank)
    (hlast : t.getLast?.map isBlank = u.getLast?.map isBlank) (hu : trim u = u) : trim t = t := by
  rw [← hu] at hhead hlast
  refine trim_eq_self (fun c hc => ?_) fun c hc => ?_
  · obtain ⟨d, hd, he⟩ := Option.map_eq_some_iff.mp (hhead.symm.trans (congrArg _ hc))
    rw [← he, isBlank_of_head?_trim hd]
  · obtain ⟨d, hd, he⟩ := Option.map_eq_some_iff.mp (hlast.symm.trans (congrArg _ hc))
    rw [← he, isBlank_of_getLast?_trim hd]

/-- A text with the lower case of a trimmed text is trimmed. -/
theorem trim_eq_self_of_lower {t u : Text} (h : lower t = lower u) (hu : trim u = u) :
    trim t = t := by
  refine trim_eq_self_of_ends ?_ ?_ hu
  · rw [← (lowers_lower t).head?_isBlank, h, (lowers_lower u).head?_isBlank]
  · rw [← (lowers_lower t).getLast?_isBlank, h, (lowers_lower u).getLast?_isBlank]

def isAscii (t : Text) : Bool := t.all (·.toNat < 0x80)

theorem lowerAfter_append_ascii {p : Text} (h : isAscii p = true) (before t : Text) :
    lowerAfter before (p ++ t) = p.map Char.toLower ++ lowerAfter (p.reverse ++ before) t := by
  induction p generalizing before with
  | nil => rfl
  | cons c p ih =>
    obtain ⟨hc, hp⟩ := Bool.and_eq_true_iff.mp h
    have hascii : c.toNat < 0x80 := of_decide_eq_true hc
    have hsigma : c ≠ 'Σ' := by
      rintro rfl
      exact absurd hascii (by decide)
    rw [List.cons_append, lowerAfter, if_neg hsigma, lowerChar, if_pos hascii, ih hp]
    simp

/-- A beginning in ASCII has its lower case, whatever follows. -/
theorem startsWith_lower_ascii {p t : Text} (hp : isAscii p = true)
    (h : startsWith p t = true) : startsWith (p.map Char.toLower) (lower t) = true := by
  obtain ⟨rest, rfl⟩ := startsWith_iff.mp h
  exact startsWith_iff.mpr ⟨_, (lowerAfter_append_ascii hp [] rest).symm⟩

theorem meetsCased_cons (c : Char) (t : Text) :
    meetsCased (c :: t) = if isCaseIgnorable c then meetsCased t else inRanges cased c := by
  by_cases hc : isCaseIgnorable c = true
  · rw [if_pos hc, meetsCased, List.dropWhile_cons_of_pos hc]
    rfl
  · rw [if_neg hc, meetsCased, List.dropWhile_cons_of_neg hc]

/-- A number sign ends a word, so a sigma before it is final as at the end of a text. -/
theorem meetsCased_append_sharp (t u : Text) : meetsCased (t ++ '#' :: u) = meetsCased t := by
  induction t with
  | nil =>
    rw [List.nil_append, meetsCased_cons, if_neg (by decide +kernel)]
    decide +kernel
  | cons c t ih => rw [List.cons_append, meetsCased_cons, meetsCased_cons, ih]

theorem lowerAfter_append_sharp (before t u : Text) :
    ∃ rest, lowerAfter before (t ++ '#' :: u) = lowerAfter before t ++ '#' :: rest := by
  induction t generalizing before with
  | nil => exact ⟨_, rfl⟩
  | cons c t ih =>
    obtain ⟨rest, he⟩ := ih (c :: before)
    refine ⟨rest, ?_⟩
    rw [List.cons_append, lowerAfter, lowerAfter, he, meetsCased_append_sharp, List.append_assoc]

end MarkupBridge.Text
