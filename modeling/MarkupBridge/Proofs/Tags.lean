import MarkupBridge.Markdown.Tag
import MarkupBridge.Proofs.Lines
import MarkupBridge.Text.Html

namespace MarkupBridge

namespace Text

theorem not_mem_flatMap {f : α → Text} {c : Char} (h : ∀ a, c ∉ f a) (l : List α) :
    c ∉ l.flatMap f := by
  intro hmem
  obtain ⟨a, -, hmem⟩ := List.mem_flatMap.mp hmem
  exact h a hmem

/-- What stands for a character is itself, if it begins no mark, or the name of it. -/
theorem mem_htmlChar {x c : Char} (h : x ∈ htmlChar c) :
    x ∈ "&amp;&lt;&gt;".toList ∨ x = c ∧ c ≠ '<' := by
  unfold htmlChar at h
  split at h
  · exact .inl (List.mem_append_left "&lt;&gt;".toList h)
  · split at h
    · exact .inl (List.mem_append_left "&gt;".toList (List.mem_append_right "&amp;".toList h))
    · next hc =>
      split at h
      · exact .inl (List.mem_append_right "&amp;&lt;".toList h)
      · exact .inr ⟨List.mem_singleton.mp h, hc⟩

theorem not_mem_htmlChar (c : Char) : '<' ∉ htmlChar c := by
  intro h
  rcases mem_htmlChar h with h | ⟨h, hc⟩
  · revert h
    decide
  · exact hc h.symm

theorem not_mem_escapeHtml (t : Text) : '<' ∉ escapeHtml t := not_mem_flatMap not_mem_htmlChar t

/-- Nothing ends a value between double quotes, and no tag begins in it. -/
theorem not_mem_escapeAttribute (t : Text) : '"' ∉ escapeAttribute t ∧ '<' ∉ escapeAttribute t := by
  have hchar : ∀ c, '"' ∉ attributeChar c ∧ '<' ∉ attributeChar c := by
    intro c
    unfold attributeChar
    split
    · decide
    · next hc =>
      refine ⟨fun h => ?_, not_mem_htmlChar c⟩
      rcases mem_htmlChar h with h | ⟨h, -⟩
      · revert h
        decide
      · exact hc h.symm
  exact ⟨not_mem_flatMap (fun c => (hchar c).1) t, not_mem_flatMap (fun c => (hchar c).2) t⟩

end Text

namespace Markdown.Tag
open Text

/-- A mark is passed if it is there. -/
theorem isSome_past?_iff {mark : String} {t : Text} :
    (past? mark t).isSome = true ↔ mark.toList <:+: t := by
  rw [past?, Option.isSome_map]
  constructor
  · intro h
    obtain ⟨⟨a, b⟩, hcut⟩ := Option.isSome_iff_exists.mp h
    exact ⟨a, b, (eq_of_cut? hcut).symm⟩
  · intro h
    induction t with
    | nil => rw [List.infix_nil.mp h]; rfl
    | cons c t ih =>
      rw [cut?]
      split
      · rfl
      · next hafter =>
        rcases List.infix_cons_iff.mp h with ⟨r, hr⟩ | h
        · rw [after?_eq_some_iff.mpr hr.symm] at hafter
          cases hafter
        · rw [Option.isSome_map]
          exact ih h

theorem Place.eq_of_finish? {c : Char} {p : Place} (h : Place.finish? c = some p) : c = '>' := by
  unfold Place.finish? at h
  split at h
  · assumption
  · cases h

theorem Place.eq_of_between?_done {c : Char} (h : Place.between? c = some .done) : c = '>' := by
  unfold Place.between? at h
  repeat' split at h
  any_goals cases h
  exact eq_of_finish? h

theorem Place.eq_of_step?_done {p : Place} {c : Char} (h : p.step? c = some .done) : c = '>' := by
  cases p <;> simp only [Place.step?] at h <;> repeat' split at h
  all_goals first | cases h | exact eq_of_finish? h | exact eq_of_between?_done h

theorem finish?_cons {p : Place} (hp : p ≠ .done) (c : Char) (t : Text) :
    finish? p (c :: t) = (p.step? c).bind fun p => finish? p t :=
  finish?.eq_3 p c t hp

/-- A tag ends with `>`. -/
theorem mem_of_finish? {p : Place} (hp : p ≠ .done) {t : Text}
    (h : (finish? p t).isSome = true) : '>' ∈ t := by
  induction t generalizing p with
  | nil => cases p <;> simp_all [finish?]
  | cons c t ih =>
    rw [finish?_cons hp] at h
    cases hs : p.step? c with
    | none => rw [hs] at h; cases h
    | some q =>
      by_cases hq : q = .done
      · subst hq
        simp [Place.eq_of_step?_done hs]
      · rw [hs] at h
        exact List.mem_cons_of_mem c (ih hq h)

/-- What follows a tag does not matter. -/
theorem finish?_append {p : Place} {t r : Text} (h : finish? p t = some r) (u : Text) :
    finish? p (t ++ u) = some (r ++ u) := by
  fun_induction finish? p t with
  | case1 t => cases h; rw [finish?]
  | case2 => cases h
  | case3 p c t hp ih =>
    rw [List.cons_append, finish?_cons hp]
    cases hs : p.step? c with
    | none => rw [hs] at h; cases h
    | some q =>
      rw [hs] at h
      exact ih q h

theorem isSome_finish?_append {p : Place} {t : Text} (h : (finish? p t).isSome = true) (u : Text) :
    (finish? p (t ++ u)).isSome = true := by
  obtain ⟨r, hr⟩ := Option.isSome_iff_exists.mp h
  exact Option.isSome_of_eq_some (finish?_append hr u)

/-- A tag does not end where there is no `>`. -/
theorem isSome_finish?_append_of_not_mem {p : Place} (hp : p ≠ .done) (t : Text)
    {u : Text} (hu : '>' ∉ u) : (finish? p (t ++ u)).isSome = (finish? p t).isSome := by
  induction t generalizing p with
  | nil =>
    rw [finish?.eq_2 p hp, List.nil_append, Option.isSome_none, Bool.eq_false_iff]
    exact fun h => hu (mem_of_finish? hp h)
  | cons c t ih =>
    rw [List.cons_append, finish?_cons hp, finish?_cons hp]
    cases p.step? c with
    | none => rfl
    | some q =>
      by_cases hq : q = .done
      · subst hq
        simp [finish?]
      · exact ih hq

/-- An attribute with its value as it is written. -/
def assignment (name value : Text) : Text := ' ' :: name ++ ['=', '"'] ++ value ++ ['"']

def assignments (as : List (Text × Text)) : Text :=
  as.flatMap fun (name, value) => assignment name value

theorem finish?_nameChars {n : Text} (h : n.all isNameChar = true) (t : Text) :
    finish? .name (n ++ t) = finish? .name t := by
  induction n with
  | nil => rfl
  | cons c n ih =>
    obtain ⟨hc, hn⟩ := Bool.and_eq_true_iff.mp h
    rw [List.cons_append, finish?_cons (p := .name) nofun, Place.step?, if_pos hc]
    exact ih hn

theorem finish?_letters {n : Text} (h : n.all Char.isAlpha = true) (t : Text) :
    finish? .attributeName (n ++ t) = finish? .attributeName t := by
  induction n with
  | nil => rfl
  | cons c n ih =>
    obtain ⟨hc, hn⟩ := Bool.and_eq_true_iff.mp h
    have hattribute : isAttributeChar c = true := by
      simp [isAttributeChar, Char.isAlphanum, hc]
    rw [List.cons_append, finish?_cons (p := .attributeName) nofun, Place.step?,
      if_pos hattribute]
    exact ih hn

/-- The quote that opens a value is the next to close it. -/
theorem finish?_quoted {v : Text} (h : '"' ∉ v) (t : Text) :
    finish? (.quoted '"') (v ++ '"' :: t) = finish? .afterQuoted t := by
  induction v with
  | nil => rfl
  | cons c v ih =>
    have hc : c ≠ '"' := Ne.symm (List.ne_of_not_mem_cons h)
    rw [List.cons_append, finish?_cons (p := .quoted _) nofun, Place.step?, if_neg hc]
    exact ih (List.not_mem_of_not_mem_cons h)

theorem between?_of_isAlpha {c : Char} (h : c.isAlpha = true) :
    Place.between? c = some .attributeName := by
  have hspace : isSpace c = false := by
    cases hs : isSpace c with
    | false => rfl
    | true =>
      simp [isSpace, isPad, isLineEnd] at hs
      rcases hs with (rfl | rfl) | rfl | rfl <;> cases h
  have hslash : c ≠ '/' := by
    rintro rfl
    cases h
  simp [Place.between?, hspace, hslash, h]

/-- Whatever stands before it, a tag goes on after an attribute as after its name. -/
theorem finish?_assignment {n v : Text} (hn : n ≠ []) (hletters : n.all Char.isAlpha = true)
    (hv : '"' ∉ v) {p : Place} (hp : p = .name ∨ p = .afterQuoted) (t : Text) :
    finish? p (assignment n v ++ t) = finish? .afterQuoted t := by
  have hblank : ∀ u, finish? p (' ' :: u) = finish? .between u := by
    rcases hp with rfl | rfl <;> exact fun _ => rfl
  cases n with
  | nil => exact absurd rfl hn
  | cons c n =>
    obtain ⟨hc, hletters⟩ := Bool.and_eq_true_iff.mp hletters
    have htext : assignment (c :: n) v ++ t = ' ' :: c :: (n ++ '=' :: '"' :: (v ++ '"' :: t)) := by
      simp [assignment]
    rw [htext, hblank, finish?_cons (p := .between) nofun, Place.step?, between?_of_isAlpha hc,
      Option.bind_some, finish?_letters hletters]
    exact finish?_quoted hv t

/-- Attributes between double quotes that a tag can have and that no other tag begins in. -/
def IsAssignment (a : Text × Text) : Prop :=
  a.1 ≠ [] ∧ a.1.all Char.isAlpha = true ∧ '"' ∉ a.2 ∧ '<' ∉ a.2

theorem finish?_assignments {as : List (Text × Text)} (h : ∀ a ∈ as, IsAssignment a) {p : Place}
    (hp : p = .name ∨ p = .afterQuoted) (t : Text) :
    finish? p (assignments as ++ '>' :: t) = some t := by
  induction as generalizing p with
  | nil => rcases hp with rfl | rfl <;> exact finish?.eq_1 t
  | cons a as ih =>
    obtain ⟨hne, hletters, hvalue, -⟩ := h a List.mem_cons_self
    have htext : assignments (a :: as) ++ '>' :: t =
        assignment a.1 a.2 ++ (assignments as ++ '>' :: t) := by
      simp [assignments]
    rw [htext, finish?_assignment hne hletters hvalue hp]
    exact ih (fun b hb => h b (List.mem_cons_of_mem a hb)) (.inr rfl)

theorem not_mem_assignments {as : List (Text × Text)} (h : ∀ a ∈ as, IsAssignment a) :
    '<' ∉ assignments as := by
  intro hmem
  obtain ⟨a, ha, hmem⟩ := List.mem_flatMap.mp hmem
  obtain ⟨-, hletters, -, hvalue⟩ := h a ha
  have hname : '<' ∉ a.1 := not_mem_of_all hletters rfl
  simp [assignment, hname, hvalue] at hmem

end Markdown.Tag

end MarkupBridge
