import MarkupBridge.Proofs.LineForm
import MarkupBridge.Proofs.LowerCase
import MarkupBridge.Proofs.Tokens

namespace MarkupBridge
open Text

namespace Address

/-- An address with its name, and its anchor from the mark on if it has one. -/
inductive Parts : Text → Text → Text → Prop where
  | plain {name : Text} (h : '#' ∉ name) : Parts name name []
  | anchored {name : Text} (h : '#' ∉ name) (anchor : Text) :
      Parts (name ++ '#' :: anchor) name ('#' :: anchor)

theorem exists_parts (t : Text) : ∃ name anchor, Parts t name anchor := by
  cases h : cutChar? '#' t with
  | none => exact ⟨t, [], .plain (not_mem_of_cutChar?_eq_none h)⟩
  | some p =>
    obtain ⟨name, anchor⟩ := p
    exact ⟨name, '#' :: anchor, eq_of_cutChar? h ▸ .anchored (not_mem_of_cutChar? h) anchor⟩

namespace Parts

theorem eq {t name anchor : Text} (h : Parts t name anchor) : t = name ++ anchor := by
  cases h with
  | plain h => rw [List.append_nil]
  | anchored h anchor => rfl

theorem not_mem {t name anchor : Text} (h : Parts t name anchor) : '#' ∉ name := by
  cases h with
  | plain h => exact h
  | anchored h anchor => exact h

theorem cutChar?_eq {t name anchor : Text} (h : Parts t name anchor) :
    name = ((cutChar? '#' t).map Prod.fst).getD t := by
  cases h with
  | plain h => rw [cutChar?_of_not_mem h]; rfl
  | anchored h anchor => rw [cutChar?_append h]; rfl

theorem unique {t name name' anchor anchor' : Text} (h : Parts t name anchor)
    (h' : Parts t name' anchor') : name = name' :=
  h.cutChar?_eq.trans h'.cutChar?_eq.symm

theorem lower {t name anchor : Text} (h : Parts t name anchor) :
    ∃ anchor', Parts (lower t) (Text.lower name) anchor' := by
  have hnot : ∀ {t : Text}, '#' ∉ t → '#' ∉ Text.lower t :=
    fun ht hmem => ht (((lowers_lower _).mem_iff (by decide)).mp hmem)
  cases h with
  | plain h => exact ⟨[], .plain (hnot h)⟩
  | anchored h anchor =>
    obtain ⟨rest, he⟩ := lowerAfter_append_sharp [] name anchor
    exact ⟨'#' :: rest, (congrArg (Parts · _ _) he).mpr (.anchored (hnot h) rest)⟩

/-- A text with the same lower case has its name and its anchor in the same places. -/
theorem of_lower_eq {t u name anchor : Text} (h : Parts u name anchor)
    (he : Text.lower t = Text.lower u) :
    ∃ name' anchor', Parts t name' anchor' ∧ Text.lower name' = Text.lower name := by
  obtain ⟨name', anchor', h'⟩ := exists_parts t
  obtain ⟨lowered, hlowered⟩ := h.lower
  obtain ⟨lowered', hlowered'⟩ := h'.lower
  rw [he] at hlowered'
  exact ⟨name', anchor', h', hlowered'.unique hlowered⟩

theorem startsWith_eq {t name anchor : Text} (h : Parts t name anchor) {mark : Text}
    (hmark : '#' ∉ mark) : startsWith mark t = startsWith mark name := by
  cases h with
  | plain h => rfl
  | anchored h anchor =>
    rw [startsWith, after?_append hmark, Option.isSome_map]
    rfl

end Parts

def fixedMarks : List Text := ["mailto:".toList, "tel:".toList, ['#'], ['/']]

/-- What addresses that are kept as they are begin with. -/
inductive VerbatimMark : Text → Prop where
  | scheme {scheme : Text} (hne : scheme ≠ []) (hall : ∀ c ∈ scheme, inScheme c = true) :
      VerbatimMark (scheme ++ "://".toList)
  | fixed {mark : Text} (h : mark ∈ fixedMarks) : VerbatimMark mark

theorem isVerbatim_iff {t : Text} :
    isVerbatim t = true ↔ ∃ mark, VerbatimMark mark ∧ startsWith mark t = true := by
  simp only [isVerbatim, Bool.or_eq_true]
  constructor
  · rintro ((((h | h) | h) | h) | h)
    · obtain ⟨scheme, hne, hall, hstart⟩ := hasScheme_iff.mp h
      exact ⟨_, .scheme hne hall, hstart⟩
    all_goals exact ⟨_, .fixed (by decide), h⟩
  · rintro ⟨mark, hmark, hstart⟩
    cases hmark with
    | scheme hne hall => exact .inl (.inl (.inl (.inl (hasScheme_iff.mpr ⟨_, hne, hall, hstart⟩))))
    | fixed h =>
      simp only [fixedMarks, List.mem_cons, List.not_mem_nil, or_false] at h
      rcases h with rfl | rfl | rfl | rfl <;> simp only [hstart, true_or, or_true]

theorem startsWith_sharp {t : Text} (h : isVerbatim t = false) : startsWith ['#'] t = false :=
  Bool.eq_false_iff.mpr fun hstart =>
    Bool.eq_false_iff.mp h (isVerbatim_iff.mpr ⟨_, .fixed (by decide), hstart⟩)

theorem le_of_isAlphanum {c : Char} (h : c.isAlphanum = true) : c ≤ 'z' := by
  rcases Bool.or_eq_true_iff.mp h with halpha | hdigit
  · rcases Bool.or_eq_true_iff.mp halpha with hupper | hlower
    · have hbounds : 'A' ≤ c ∧ c ≤ 'Z' := of_decide_eq_true hupper
      exact Char.le_trans hbounds.2 (by decide)
    · exact of_decide_eq_true (Bool.and_eq_true_iff.mp hlower).2
  · have hlast : c ≤ '9' := of_decide_eq_true (Bool.and_eq_true_iff.mp hdigit).2
    exact Char.le_trans hlast (by decide)

theorem toNat_lt_of_inScheme {c : Char} (h : inScheme c = true) : c.toNat < 0x80 := by
  have hlast : c ≤ 'z' := by
    simp only [inScheme, Bool.or_eq_true, beq_iff_eq] at h
    rcases h with ((h | rfl) | rfl) | rfl
    · exact le_of_isAlphanum h
    all_goals decide
  exact Nat.lt_of_le_of_lt (UInt32.le_iff_toNat_le.mp hlast) (by decide)

theorem inScheme_toLower {c : Char} (h : inScheme c = true) : inScheme c.toLower = true :=
  have hkept : inScheme c = true → inScheme c.toLower = true :=
    forall_ascii (toNat_lt_of_inScheme h) (by decide)
  hkept h

namespace VerbatimMark

theorem isAscii {mark : Text} (h : VerbatimMark mark) : Text.isAscii mark = true := by
  cases h with
  | scheme hne hall =>
    rw [Text.isAscii, List.all_append, Bool.and_eq_true]
    exact ⟨List.all_eq_true.mpr fun c hc => by simpa using toNat_lt_of_inScheme (hall c hc), rfl⟩
  | fixed h => exact (by decide : ∀ mark ∈ fixedMarks, Text.isAscii mark = true) mark h

theorem lower {mark : Text} (h : VerbatimMark mark) : VerbatimMark (mark.map Char.toLower) := by
  cases h with
  | scheme hne hall =>
    rw [List.map_append]
    refine .scheme (by simpa using hne) ?_
    simpa using fun c hc => inScheme_toLower (hall c hc)
  | fixed h =>
    rw [(by decide : ∀ mark ∈ fixedMarks, mark.map Char.toLower = mark) mark h]
    exact .fixed h

theorem eq_sharp {mark : Text} (h : VerbatimMark mark) (hmem : '#' ∈ mark) : mark = ['#'] := by
  cases h with
  | scheme hne hall =>
    rcases List.mem_append.mp hmem with hmem | hmem
    · exact absurd (hall '#' hmem) (by decide)
    · exact absurd hmem (by decide)
  | fixed h => exact (by decide : ∀ mark ∈ fixedMarks, '#' ∈ mark → mark = ['#']) mark h hmem

end VerbatimMark

/-- An address kept as it is would be kept in lower case too. -/
theorem isVerbatim_lower {t : Text} (h : isVerbatim t = true) : isVerbatim (lower t) = true := by
  obtain ⟨mark, hmark, hstart⟩ := isVerbatim_iff.mp h
  exact isVerbatim_iff.mpr ⟨_, hmark.lower, startsWith_lower_ascii hmark.isAscii hstart⟩

/-- It is the name that makes an address be kept as it is, unless there is none. -/
theorem Parts.isVerbatim_name {t name anchor : Text} (h : Parts t name anchor)
    (hsharp : startsWith ['#'] t = false) (hverbatim : isVerbatim t = true) :
    isVerbatim name = true := by
  obtain ⟨mark, hmark, hstart⟩ := isVerbatim_iff.mp hverbatim
  have hnot : '#' ∉ mark := by
    intro hmem
    rw [hmark.eq_sharp hmem, hsharp] at hstart
    cases hstart
  exact isVerbatim_iff.mpr ⟨mark, hmark, h.startsWith_eq hnot ▸ hstart⟩

/-- Names have no spaces. -/
def underscore (c : Char) : Char := if c = ' ' then '_' else c

theorem underscore_of_ne {c : Char} (h : c ≠ ' ') : underscore c = c := if_neg h

theorem ne_space_of_isBlank {c : Char} (h : isBlank c = false) : c ≠ ' ' := by
  rintro rfl
  cases h

theorem underscore_ne_space (c : Char) : underscore c ≠ ' ' := by
  unfold underscore
  split
  · decide
  · assumption

theorem underscore_eq_iff {m c : Char} (hspace : m ≠ ' ') (hmark : m ≠ '_') :
    underscore c = m ↔ c = m := by
  by_cases hc : c = ' '
  · subst hc
    exact ⟨fun h => absurd h.symm hmark, fun h => absurd h.symm hspace⟩
  · rw [underscore_of_ne hc]

theorem canonicalName_eq (t : Text) : canonicalName t = (lower (trim t)).map underscore := rfl

theorem isLower_of_mem_canonicalName {t : Text} {c : Char} (h : c ∈ canonicalName t) :
    IsLower c := by
  obtain ⟨d, hd, rfl⟩ := List.mem_map.mp h
  by_cases hspace : d = ' '
  · subst hspace
    decide
  · rw [if_neg hspace]
    exact (lowers_lower (trim t)).isLower d hd

theorem lower_canonicalName (t : Text) : lower (canonicalName t) = canonicalName t :=
  lower_eq_self fun _ => isLower_of_mem_canonicalName

theorem trim_canonicalName (t : Text) : trim (canonicalName t) = canonicalName t := by
  have hlower : trim (lower (trim t)) = lower (trim t) :=
    trim_eq_self_of_ends (lowers_lower _).head?_isBlank (lowers_lower _).getLast?_isBlank
      (trim_trim t)
  have hkept : ∀ d, isBlank d = false → isBlank (underscore d) = false := by
    intro d hd
    rwa [underscore_of_ne (ne_space_of_isBlank hd)]
  rw [canonicalName_eq]
  refine trim_eq_self (fun c hc => ?_) fun c hc => ?_
  · rw [List.head?_map] at hc
    obtain ⟨d, hd, rfl⟩ := Option.map_eq_some_iff.mp hc
    exact hkept d (isBlank_of_head?_trim (hlower.symm ▸ hd))
  · rw [List.getLast?_map] at hc
    obtain ⟨d, hd, rfl⟩ := Option.map_eq_some_iff.mp hc
    exact hkept d (isBlank_of_getLast?_trim (hlower.symm ▸ hd))

/-- A text with the lower case of a canonical name has that canonical name. -/
theorem canonicalName_of_lower_eq {t u : Text} (h : lower t = canonicalName u) :
    canonicalName t = canonicalName u := by
  have htrim : trim t = t :=
    trim_eq_self_of_lower (h.trans (lower_canonicalName u).symm) (trim_canonicalName u)
  have hno : ∀ c ∈ canonicalName u, underscore c = c := by
    intro c hc
    obtain ⟨d, -, rfl⟩ := List.mem_map.mp hc
    exact underscore_of_ne (underscore_ne_space d)
  rw [canonicalName_eq, htrim, h, List.map_congr_left hno, List.map_id']

theorem not_mem_canonicalName {m : Char} (hm : Markdown.isAsciiPunctuation m = true)
    (hmark : m ≠ '_') {t : Text} (h : m ∉ t) : m ∉ canonicalName t := by
  intro hmem
  obtain ⟨d, hd, he⟩ := List.mem_map.mp hmem
  have hspace : m ≠ ' ' := by
    rintro rfl
    cases hm
  obtain rfl := (underscore_eq_iff hspace hmark).mp he
  exact h ((trim_isInfix t).subset (((lowers_lower _).mem_iff hm).mp hd))

theorem isPrefix_map_underscore {mark t : Text} (hspace : ' ' ∉ mark) (hmark : '_' ∉ mark) :
    mark <+: t.map underscore ↔ mark <+: t := by
  induction mark generalizing t with
  | nil => simp
  | cons m mark ih =>
    cases t with
    | nil => rfl
    | cons c t =>
      rw [List.map_cons, List.cons_prefix_cons, List.cons_prefix_cons,
        ih (List.not_mem_of_not_mem_cons hspace) (List.not_mem_of_not_mem_cons hmark), eq_comm,
        underscore_eq_iff (Ne.symm (List.ne_of_not_mem_cons hspace))
          (Ne.symm (List.ne_of_not_mem_cons hmark)), eq_comm]

theorem startsWith_canonicalName {mark : Text}
    (h : mark.all Markdown.isAsciiPunctuation = true) (hmark : '_' ∉ mark) (t : Text) :
    startsWith mark (canonicalName t) = startsWith mark (trim t) := by
  have hspace : ' ' ∉ mark := fun hmem => absurd (List.all_eq_true.mp h ' ' hmem) (by decide)
  rw [← startsWith_lower h (trim t), canonicalName_eq, Bool.eq_iff_iff, startsWith_iff,
    startsWith_iff, isPrefix_map_underscore hspace hmark]

/-- Whether the address is against the current document. -/
def isRelative (t : Text) : Bool := startsWith ['.', '/'] t || startsWith ['.', '.', '/'] t

theorem canonicalName_ne_nil {c : Char} (hc : isBlank c = false) (t : Text) :
    canonicalName (c :: t) ≠ [] := by
  intro h
  have hlower : lower (trim (c :: t)) = [] := List.map_eq_nil_iff.mp h
  have hhead := (lowers_lower (trim (c :: t))).head?_isBlank
  rw [hlower] at hhead
  have hnil : trim (c :: t) = [] := by simpa using hhead.symm
  exact List.ne_nil_of_mem (mem_trim hc List.mem_cons_self) hnil

namespace Parts

/-- The name of a trimmed address has no blank in front. -/
theorem isBlank_of_head? {t name anchor : Text} (h : Parts t name anchor) (ht : trim t = t)
    {c : Char} (hc : name.head? = some c) : isBlank c = false := by
  obtain ⟨rest, rfl⟩ := List.head?_eq_some_iff.mp hc
  refine isBlank_of_head?_trim (t := t) ?_
  rw [ht, h.eq]
  rfl

theorem trim_canonical {t name anchor : Text} (h : Parts t name anchor) (ht : trim t = t) :
    trim (canonicalName name ++ anchor) = canonicalName name ++ anchor := by
  have hname := trim_canonicalName name
  cases h with
  | plain h => rw [List.append_nil, hname]
  | anchored h anchor =>
    refine trim_eq_self (fun c hc => ?_) fun c hc => ?_
    · cases hcanonical : canonicalName name with
      | nil =>
        rw [hcanonical] at hc
        cases hc
        decide
      | cons d rest =>
        rw [hcanonical] at hc hname
        cases hc
        exact isBlank_of_head?_trim (congrArg List.head? hname)
    · refine isBlank_of_getLast?_trim (t := name ++ '#' :: anchor) ?_
      rw [ht, getLast?_append_of_ne_nil name (List.cons_ne_nil '#' anchor)]
      rwa [getLast?_append_of_ne_nil _ (List.cons_ne_nil '#' anchor)] at hc

theorem canonical {t name anchor : Text} (h : Parts t name anchor) :
    Parts (canonicalName name ++ anchor) (canonicalName name) anchor := by
  have hnot : '#' ∉ canonicalName name :=
    not_mem_canonicalName (by decide) (by decide) h.not_mem
  cases h with
  | plain h =>
    rw [List.append_nil]
    exact .plain hnot
  | anchored h anchor => exact .anchored hnot anchor

/-- There is an anchor without a name only where the address is an anchor. -/
theorem startsWith_canonical {t name anchor : Text} (h : Parts t name anchor) (ht : trim t = t)
    (hsharp : startsWith ['#'] t = false) :
    startsWith ['#'] (canonicalName name ++ anchor) = false := by
  cases hname : name with
  | nil =>
    have heq := h.eq
    rw [hname, List.nil_append] at heq
    rwa [← heq]
  | cons c rest =>
    have hblank : isBlank c = false := h.isBlank_of_head? ht (by rw [hname]; rfl)
    obtain ⟨d, rest', hcanonical⟩ := List.exists_cons_of_ne_nil (canonicalName_ne_nil hblank rest)
    have hnot := (hname ▸ h.canonical).not_mem
    rw [hcanonical] at hnot ⊢
    have hd : '#' ≠ d := List.ne_of_not_mem_cons hnot
    simp [startsWith, after?, hd]

theorem isRelative_eq {t name anchor : Text} (h : Parts t name anchor) :
    isRelative t = isRelative name := by
  rw [isRelative, h.startsWith_eq (by decide), h.startsWith_eq (by decide)]
  rfl

/-- Nothing is trimmed off the front of a name, so trimming it makes no address relative. -/
theorem isRelative_trim {t name anchor : Text} (h : Parts t name anchor) (ht : trim t = t)
    (hrelative : isRelative t = false) : isRelative (trim name) = false := by
  have hfront : trimStart name = name := dropWhile_eq_self fun c hc => h.isBlank_of_head? ht hc
  have hinitial : trim name <+: name := by
    rw [trim, hfront]
    exact dropEndWhile_isPrefix isBlank name
  rw [h.isRelative_eq, isRelative, Bool.or_eq_false_iff] at hrelative
  obtain ⟨hbelow, hbeside⟩ := hrelative
  have hnot : ∀ {mark}, startsWith mark name = false → startsWith mark (trim name) = false :=
    fun hmark => Bool.eq_false_iff.mpr fun hstart =>
      Bool.eq_false_iff.mp hmark (startsWith_of_isPrefix hstart hinitial)
  exact Bool.or_eq_false_iff.mpr ⟨hnot hbelow, hnot hbeside⟩

end Parts

theorem isRelative_lower (t : Text) : isRelative (lower t) = isRelative t := by
  rw [isRelative, startsWith_lower (by decide), startsWith_lower (by decide)]
  rfl

theorem isRelative_canonicalName (t : Text) :
    isRelative (canonicalName t) = isRelative (trim t) := by
  rw [isRelative, startsWith_canonicalName (by decide) (by decide),
    startsWith_canonicalName (by decide) (by decide)]
  rfl

end Address

end MarkupBridge
