import MarkupBridge.Proofs.Lines
import MarkupBridge.Wiki.Braces
import Mathlib.Data.List.Induction

namespace MarkupBridge.Wiki
open Text

/-- As many braces are closed as opened, and at no place more. -/
structure BalancedBraces (t : Text) : Prop where
  count_eq : t.count '\x7b' = t.count '\x7d'
  count_le : ∀ p, p <+: t → p.count '\x7d' ≤ p.count '\x7b'

instance : DecidablePred BalancedBraces := fun t =>
  decidable_of_iff (t.count '\x7b' = t.count '\x7d' ∧ ∀ n < t.length + 1,
      (t.take n).count '\x7d' ≤ (t.take n).count '\x7b') <| by
    constructor
    · rintro ⟨heq, hle⟩
      refine ⟨heq, fun p hp => ?_⟩
      rw [List.prefix_iff_eq_take.mp hp]
      exact hle p.length (Nat.lt_succ_of_le hp.length_le)
    · intro h
      exact ⟨h.count_eq, fun n _ => h.count_le _ (List.take_prefix n t)⟩

/-- Texts put together from pairs of braces and from characters that are no braces. -/
inductive Matched : Text → Prop
  | nil : Matched []
  | plain {c : Char} {t : Text} : c ≠ '\x7b' → c ≠ '\x7d' → Matched t → Matched (c :: t)
  | braces {inside rest : Text} : Matched inside → Matched rest →
    Matched ('\x7b' :: (inside ++ '\x7d' :: rest))

/-- Either no brace is closed too early, or there is a first one that is. -/
theorem exists_first_closing (t : Text) :
    (∀ p, p <+: t → p.count '\x7d' ≤ p.count '\x7b') ∨
      ∃ inside rest, t = inside ++ '\x7d' :: rest ∧ BalancedBraces inside := by
  -- From the end, so that all but the last character is known before it is looked at.
  induction t using List.reverseRecOn with
  | nil =>
    refine .inl fun p hp => ?_
    rw [List.prefix_nil.mp hp]
    exact Nat.le_refl _
  | append_singleton t c ih =>
    rcases ih with hle | ⟨inside, rest, rfl, hinside⟩
    · by_cases hc : (t ++ [c]).count '\x7d' ≤ (t ++ [c]).count '\x7b'
      · refine .inl fun p hp => ?_
        rcases List.prefix_concat_iff.mp hp with rfl | hp
        · exact hc
        · exact hle p hp
      · have ht := hle t (List.prefix_refl t)
        simp only [List.count_append, List.count_singleton, beq_iff_eq] at hc
        refine .inr ⟨t, [], ?_, ?_, hle⟩
        · split at hc
          · next he => rw [he]
          · omega
        · split at hc <;> omega
    · exact .inr ⟨inside, rest ++ [c], by simp, hinside⟩

theorem BalancedBraces.tail {c : Char} {t : Text} (h : BalancedBraces (c :: t)) (hopen : c ≠ '\x7b')
    (hclose : c ≠ '\x7d') : BalancedBraces t := by
  obtain ⟨heq, hle⟩ := h
  rw [List.count_cons_of_ne hopen, List.count_cons_of_ne hclose] at heq
  refine ⟨heq, fun p hp => ?_⟩
  have hcons := hle (c :: p) ((List.prefix_cons_inj c).mpr hp)
  rwa [List.count_cons_of_ne hopen, List.count_cons_of_ne hclose] at hcons

theorem BalancedBraces.ne_closing {c : Char} {t : Text} (h : BalancedBraces (c :: t)) :
    c ≠ '\x7d' := by
  rintro rfl
  have hle := h.count_le ['\x7d'] ⟨t, rfl⟩
  revert hle
  decide

/-- The brace that closes the one at the front of a balanced text. -/
theorem BalancedBraces.exists_closing {t : Text} (h : BalancedBraces ('\x7b' :: t)) :
    ∃ inside rest, t = inside ++ '\x7d' :: rest ∧ BalancedBraces inside ∧ BalancedBraces rest := by
  obtain ⟨heq, hle⟩ := h
  have hcount : t.count '\x7d' = t.count '\x7b' + 1 := by
    rw [List.count_cons_self, List.count_cons_of_ne (by decide)] at heq
    exact heq.symm
  rcases exists_first_closing t with hall | ⟨inside, rest, rfl, hinside⟩
  · have hself := hall t (List.prefix_refl t)
    omega
  · have hin := hinside.count_eq
    have hsplit : ∀ p : Text,
        ('\x7b' :: (inside ++ '\x7d' :: p)).count '\x7b' =
          inside.count '\x7b' + p.count '\x7b' + 1 ∧
        ('\x7b' :: (inside ++ '\x7d' :: p)).count '\x7d' =
          inside.count '\x7d' + p.count '\x7d' + 1 := by
      intro p
      simp [List.count_append, Nat.add_assoc]
    refine ⟨inside, rest, rfl, hinside, ?_, fun p hp => ?_⟩
    · rw [(hsplit rest).1, (hsplit rest).2] at heq
      omega
    · obtain ⟨more, rfl⟩ := hp
      have hprefix := hle ('\x7b' :: (inside ++ '\x7d' :: p)) ⟨more, by simp⟩
      rw [(hsplit p).1, (hsplit p).2] at hprefix
      omega

theorem BalancedBraces.matched {t : Text} (h : BalancedBraces t) : Matched t := by
  induction hlength : t.length using Nat.strongRecOn generalizing t with
  | ind n ih =>
    subst hlength
    cases t with
    | nil => exact .nil
    | cons c t =>
      by_cases hopen : c = '\x7b'
      · subst hopen
        obtain ⟨inside, rest, rfl, hinside, hrest⟩ := h.exists_closing
        refine .braces (ih inside.length ?_ hinside rfl) (ih rest.length ?_ hrest rfl)
        · simp only [List.length_cons, List.length_append]
          omega
        · simp only [List.length_cons, List.length_append]
          omega
      · have hclose := h.ne_closing
        exact .plain hopen hclose (ih t.length (Nat.lt_succ_self _) (h.tail hopen hclose) rfl)

theorem Matched.of_not_mem {t : Text} (hopen : '\x7b' ∉ t) (hclose : '\x7d' ∉ t) : Matched t := by
  induction t with
  | nil => exact .nil
  | cons c t ih =>
    exact .plain (Ne.symm (List.ne_of_not_mem_cons hopen))
      (Ne.symm (List.ne_of_not_mem_cons hclose))
      (ih (List.not_mem_of_not_mem_cons hopen) (List.not_mem_of_not_mem_cons hclose))

theorem Matched.append {t u : Text} (ht : Matched t) (hu : Matched u) : Matched (t ++ u) := by
  induction ht with
  | nil => exact hu
  | plain hopen hclose _ ih => exact .plain hopen hclose ih
  | braces hinside _ _ ihrest =>
    rw [List.cons_append, List.append_assoc, List.cons_append]
    exact .braces hinside ihrest

theorem matched_endedLines {ls : List Text} (h : ∀ l ∈ ls, Matched l) :
    Matched (endedLines ls) := by
  induction ls with
  | nil => exact .nil
  | cons l ls ih =>
    rw [endedLines_cons]
    refine (h l List.mem_cons_self).append (.plain (by decide) (by decide) (ih fun m hm => ?_))
    exact h m (List.mem_cons_of_mem l hm)

/-- Matched braces are passed over, however deep they stand. -/
theorem Matched.inBraces_append {t : Text} (h : Matched t) (depth : Nat) (rest : Text) :
    inBraces (depth + 1) (t ++ rest) =
      (t ++ (inBraces (depth + 1) rest).1, (inBraces (depth + 1) rest).2) := by
  induction h generalizing depth rest with
  | nil => rfl
  | plain hopen hclose _ ih =>
    rw [List.cons_append, inBraces, if_neg fun h => hclose h.1]
    simp only [if_neg hopen, if_neg hclose, ih, List.cons_append]
  | braces _ _ ihinside ihrest =>
    have hclosed : ∀ u, inBraces (depth + 1 + 1) ('\x7d' :: u) =
        ('\x7d' :: (inBraces (depth + 1) u).1, (inBraces (depth + 1) u).2) := by
      intro u
      rw [inBraces, if_neg (by omega)]
      rfl
    rw [List.cons_append, inBraces, if_neg (by simp), List.append_assoc, List.cons_append]
    simp only [if_true, ihinside, hclosed, ihrest, List.append_assoc, List.cons_append]

theorem Matched.inBraces_closed {t : Text} (h : Matched t) (rest : Text) :
    inBraces 1 (t ++ '\x7d' :: rest) = (t, rest) := by
  have hclosed : inBraces 1 ('\x7d' :: rest) = ([], rest) := rfl
  rw [h.inBraces_append 0, hclosed, List.append_nil]

/-- Lines with matched braces are a body as soon as a line closes it. -/
theorem bracedBody_closed {ls : List Text} (hbreak : ∀ l ∈ ls, '\n' ∉ l)
    (h : Matched (endedLines ls)) (rest : List Text) :
    bracedBody [] (ls ++ ['\x7d'] :: rest) = ('\n' :: endedLines ls, rest) := by
  have hcount : (endedLines ls).count '\n' = ls.length := by
    have hflatten : '\n' ∉ ls.flatten := by
      intro hm
      obtain ⟨l, hl, hc⟩ := List.mem_flatten.mp hm
      exact hbreak l hl hc
    rw [count_endedLines, List.count_eq_zero.mpr hflatten, Nat.add_zero]
  obtain ⟨more, hmore⟩ : ∃ more, joinLines (['\x7d'] :: rest) = '\x7d' :: more := by
    cases rest with
    | nil => exact ⟨[], rfl⟩
    | cons l rest => exact ⟨_, rfl⟩
  have hjoin : joinLines ([] :: (ls ++ ['\x7d'] :: rest)) =
      '\n' :: endedLines ls ++ '\x7d' :: more := by
    rw [← List.cons_append, joinLines_append, hmore, endedLines_cons]
    rfl
  have hmatched : Matched ('\n' :: endedLines ls) := .plain (by decide) (by decide) h
  have hdrop : (ls ++ ['\x7d'] :: rest).drop (ls.length + 1) = rest := by
    rw [List.append_cons]
    exact List.drop_left' (by simp)
  rw [bracedBody, hjoin, hmatched.inBraces_closed]
  simp only [List.count_cons_self, hcount, hdrop]

end MarkupBridge.Wiki
