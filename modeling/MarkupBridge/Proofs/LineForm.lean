import MarkupBridge.Proofs.Spans
import MarkupBridge.Proofs.Tokens

namespace MarkupBridge

namespace Text

theorem not_mem_of_cutChar? {mark : Char} {t a b : Text} (h : cutChar? mark t = some (a, b)) :
    mark ∉ a := by
  induction t generalizing a with
  | nil => cases h
  | cons c t ih =>
    unfold cutChar? at h
    split at h
    · cases h
      exact List.not_mem_nil
    · next hc =>
      obtain ⟨⟨a', b'⟩, hcut, he⟩ := Option.map_eq_some_iff.mp h
      cases he
      exact List.not_mem_cons_of_ne_of_not_mem (Ne.symm hc) (ih hcut)

theorem not_mem_of_cutChar?_eq_none {mark : Char} {t : Text} (h : cutChar? mark t = none) :
    mark ∉ t := by
  induction t with
  | nil => exact List.not_mem_nil
  | cons c t ih =>
    unfold cutChar? at h
    split at h
    · cases h
    · next hc =>
      exact List.not_mem_cons_of_ne_of_not_mem (Ne.symm hc) (ih (Option.map_eq_none_iff.mp h))

theorem ne_nil_of_nonempty? {t u : Text} (h : nonempty? t = some u) : u = t ∧ u ≠ [] := by
  unfold nonempty? at h
  split at h
  · cases h
  · next hne =>
    cases h
    exact ⟨rfl, fun he => hne (List.isEmpty_iff.mpr he)⟩

/-- A text without blanks is trimmed. -/
theorem trim_of_not_isBlank {t : Text} (h : ∀ c ∈ t, isBlank c = false) : trim t = t :=
  trim_eq_self (fun c hc => h c (List.mem_of_head? hc)) fun c hc => h c (List.mem_of_getLast? hc)

end Text

namespace Wiki
open Text

namespace Link

theorem trim_read_address (t : Text) : trim (read t).address = (read t).address := by
  unfold read
  split
  · exact trim_trim _
  · exact trim_trim _

theorem not_mem_read_address (t : Text) : '|' ∉ (read t).address := by
  unfold read
  split
  · next hcut =>
    intro hm
    exact not_mem_of_cutChar? hcut ((trim_isInfix _).subset hm)
  · next hcut =>
    intro hm
    exact not_mem_of_cutChar?_eq_none hcut ((trim_isInfix _).subset hm)

theorem read_text_ne_nil (t : Text) : ∀ u ∈ (read t).text, u ≠ [] := by
  intro u hu
  unfold read at hu
  split at hu
  · exact (ne_nil_of_nonempty? hu).2
  · cases hu

/-- A link in a line: it has an address, with no blank at either end, and no empty text. -/
structure WellFormed (l : Link) : Prop where
  address_ne_nil : l.address ≠ []
  address_trimmed : trim l.address = l.address
  text_ne_nil : ∀ t ∈ l.text, t ≠ []

end Link

namespace Piece

theorem not_isBlank_of_address? {prev : Option Char} {t url : Text}
    (h : address? prev t = some url) : ∀ c ∈ url, isBlank c = false := by
  simp only [address?, Option.ite_none_right_eq_some, Option.some.injEq] at h
  obtain ⟨-, rfl⟩ := h
  intro c hc
  have hword := (dropEndWhile_isPrefix _ _).subset hc
  have hvisible := List.all_eq_true.mp List.all_takeWhile c hword
  simpa using hvisible

theorem wellFormed_of_bracketed? {t inside rest : Text} (h : bracketed? t = some (inside, rest)) :
    (Link.read inside).WellFormed := by
  have haddress : (!(Link.read inside).address.isEmpty) = true :=
    (Option.filter_eq_some_iff.mp h).2
  refine ⟨fun hnil => ?_, Link.trim_read_address inside, Link.read_text_ne_nil inside⟩
  rw [hnil] at haddress
  cases haddress

theorem wellFormed_of_address? {prev : Option Char} {t url : Text}
    (h : address? prev t = some url) : Link.WellFormed ⟨url, none⟩ := by
  refine ⟨address?_ne_nil h, trim_of_not_isBlank (not_isBlank_of_address? h), ?_⟩
  intro u hu
  cases hu

/-- What the token of a piece may be, in monospace or not. -/
def Fits (mono : Bool) : Token → Prop
  | .char _ => True
  | .toggle s => mono = true → s = .mono
  | .link l => mono = false ∧ l.WellFormed

theorem first_fits (prev : Option Char) (mono : Bool) (c : Char) (t : Text) :
    Fits mono (first prev mono c t).token := by
  unfold first
  split
  · split
    · exact fun _ => rfl
    · trivial
  next hmono =>
  have hmono : mono = false := by simpa using hmono
  split
  · split <;> trivial
  split
  · next hlink => exact ⟨hmono, wellFormed_of_bracketed? hlink⟩
  split
  · next hurl => exact ⟨hmono, wellFormed_of_address? hurl⟩
  split
  · intro h
    rw [hmono] at h
    cases h
  · trivial

end Piece

namespace Span

/-- While monospace is on, nothing but text comes before the delimiter that ends it. -/
def MonoSealed (mono : Bool) : List Span → Prop
  | [] => True
  | .text _ :: ss => MonoSealed mono ss
  | .toggle s :: ss =>
    (mono = true → s = .mono) ∧ MonoSealed (if s = .mono then !mono else mono) ss
  | .link _ :: ss => mono = false ∧ MonoSealed mono ss

/-- The spans of a line as it is read. -/
structure WellFormed (ss : List Span) : Prop where
  text_ne_nil : ∀ t, .text t ∈ ss → t ≠ []
  apart : ∀ t u, ¬ [.text t, .text u] <:+: ss
  link : ∀ l, .link l ∈ ss → l.WellFormed
  sealed : MonoSealed false ss

/-- A character goes to the front of the text before it, or is a text of its own. -/
theorem gather_char (c : Char) (ts : List Token) :
    (∃ t ss, gather ts = .text t :: ss ∧ gather (.char c :: ts) = .text (c :: t) :: ss) ∨
      (∀ t ss, gather ts ≠ .text t :: ss) ∧ gather (.char c :: ts) = .text [c] :: gather ts := by
  rw [gather]
  split
  · next t ss hg => exact .inl ⟨t, ss, hg, rfl⟩
  · next hg => exact .inr ⟨hg, rfl⟩

theorem gather_text_ne_nil (ts : List Token) : ∀ t, .text t ∈ gather ts → t ≠ [] := by
  induction ts with
  | nil => simp [gather]
  | cons token ts ih =>
    intro t ht
    cases token with
    | char c =>
      rcases gather_char c ts with ⟨u, ss, hg, he⟩ | ⟨-, he⟩
      · rw [he] at ht
        rw [hg] at ih
        rcases List.mem_cons.mp ht with ht | ht
        · cases ht
          exact List.cons_ne_nil c u
        · exact ih t (List.mem_cons_of_mem _ ht)
      · rw [he] at ht
        rcases List.mem_cons.mp ht with ht | ht
        · cases ht
          exact List.cons_ne_nil c []
        · exact ih t ht
    | toggle s => exact ih t ((List.mem_cons.mp ht).resolve_left (by simp))
    | link l => exact ih t ((List.mem_cons.mp ht).resolve_left (by simp))

theorem gather_apart (ts : List Token) : ∀ t u, ¬ [.text t, .text u] <:+: gather ts := by
  induction ts with
  | nil => simp [gather]
  | cons token ts ih =>
    intro t u h
    cases token with
    | char c =>
      rcases gather_char c ts with ⟨v, ss, hg, he⟩ | ⟨hnot, he⟩
      · rw [he] at h
        rw [hg] at ih
        rcases List.infix_cons_iff.mp h with h | h
        · obtain ⟨rest, hrest⟩ := h
          obtain ⟨-, htail⟩ := List.cons.inj hrest
          exact ih v u ⟨[], rest, congrArg (Span.text v :: ·) htail⟩
        · exact ih t u (h.trans (List.suffix_cons _ _).isInfix)
      · rw [he] at h
        rcases List.infix_cons_iff.mp h with h | h
        · obtain ⟨rest, hrest⟩ := h
          obtain ⟨-, htail⟩ := List.cons.inj hrest
          exact hnot u rest htail.symm
        · exact ih t u h
    | toggle s =>
      rcases List.infix_cons_iff.mp h with ⟨rest, hrest⟩ | h
      · cases hrest
      · exact ih t u h
    | link l =>
      rcases List.infix_cons_iff.mp h with ⟨rest, hrest⟩ | h
      · cases hrest
      · exact ih t u h

theorem monoSealed_gather_char (mono : Bool) (c : Char) (ts : List Token) :
    MonoSealed mono (gather (.char c :: ts)) ↔ MonoSealed mono (gather ts) := by
  rcases gather_char c ts with ⟨t, ss, hg, he⟩ | ⟨-, he⟩
  · rw [he, hg]
    rfl
  · rw [he]
    rfl

/-- The pieces of a line keep monospace to itself, and their links are well formed. -/
theorem gather_all (prev : Option Char) (mono : Bool) (t : Text) :
    MonoSealed mono (gather ((Piece.all prev mono t).map (·.token))) ∧
      ∀ l, Token.link l ∈ (Piece.all prev mono t).map (·.token) → l.WellFormed := by
  fun_induction Piece.all prev mono t with
  | case1 =>
    refine ⟨trivial, fun l hl => ?_⟩
    cases hl
  | case2 prev mono c t p ih =>
    obtain ⟨hsealed, hlinks⟩ := ih
    have hfits : Piece.Fits mono p.token := Piece.first_fits prev mono c t
    rw [List.map_cons]
    generalize p.token = token at hfits hsealed hlinks
    cases token with
    | char d =>
      refine ⟨(monoSealed_gather_char mono d _).mpr hsealed, fun l hl => hlinks l ?_⟩
      exact (List.mem_cons.mp hl).resolve_left (by simp)
    | toggle s =>
      refine ⟨⟨hfits, ?_⟩, fun l hl => hlinks l ((List.mem_cons.mp hl).resolve_left (by simp))⟩
      cases s <;> exact hsealed
    | link m =>
      refine ⟨⟨hfits.1, hsealed⟩, fun l hl => ?_⟩
      rcases List.mem_cons.mp hl with he | hl
      · cases he
        exact hfits.2
      · exact hlinks l hl

theorem wellFormed_ofLine (line : Text) : WellFormed (ofLine line) := by
  obtain ⟨hsealed, hlinks⟩ := gather_all none false line
  exact ⟨gather_text_ne_nil _, gather_apart _, fun l hl => hlinks l (token_of_mem_gather hl),
    hsealed⟩

end Span
end Wiki
end MarkupBridge
