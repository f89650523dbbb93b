import MarkupBridge.Proofs.Lines
import MarkupBridge.Wiki.Line

namespace MarkupBridge

namespace Address
open Text

/-- Characters that a scheme may have. -/
def inScheme (c : Char) : Bool := c.isAlphanum || c == '+' || c == '-' || c == '.'

theorem hasScheme_iff {t : Text} : hasScheme t = true ↔
    ∃ scheme ≠ [], (∀ c ∈ scheme, inScheme c = true) ∧
      startsWith (scheme ++ "://".toList) t = true := by
  constructor
  · intro h
    unfold hasScheme at h
    split at h
    · cases h
    · next scheme rest hcut =>
      obtain ⟨hne, hall⟩ := Bool.and_eq_true_iff.mp h
      refine ⟨scheme, ?_, List.all_eq_true.mp hall, ?_⟩
      · rintro rfl
        cases hne
      · exact startsWith_iff.mpr ⟨rest, (eq_of_cut? hcut).symm⟩
  · rintro ⟨scheme, hne, hall, h⟩
    obtain ⟨rest, rfl⟩ := startsWith_iff.mp h
    have hcolon : ':' ∉ scheme := fun hmem => absurd (hall ':' hmem) (by decide)
    unfold hasScheme
    rw [show "://".toList = ':' :: ['/', '/'] from rfl, cut?_append hcolon]
    exact Bool.and_eq_true_iff.mpr ⟨by simpa using hne, List.all_eq_true.mpr hall⟩

theorem eq_of_hasScheme {t : Text} (h : hasScheme t = true) :
    ∃ scheme rest, t = scheme ++ ':' :: rest ∧ ∀ c ∈ scheme, inScheme c = true := by
  obtain ⟨scheme, -, hall, hstart⟩ := hasScheme_iff.mp h
  obtain ⟨rest, rfl⟩ := startsWith_iff.mp hstart
  exact ⟨scheme, '/' :: '/' :: rest, by simp, hall⟩

end Address

namespace Wiki
open Text

/-- A text that does not begin with a scheme and its colon. -/
def Calm (t : Text) : Prop := (t.dropWhile Address.inScheme).head? ≠ some ':'

theorem calm_nil : Calm [] := by
  intro h
  cases h

theorem Calm.cons {c : Char} {t : Text} (hc : c ≠ ':') (h : Calm t) : Calm (c :: t) := by
  unfold Calm
  cases hs : Address.inScheme c with
  | true =>
    rw [List.dropWhile_cons_of_pos hs]
    exact h
  | false =>
    rw [List.dropWhile_cons_of_neg (by simp [hs])]
    intro he
    exact hc (Option.some.inj he)

theorem Calm.append {t u : Text} (ht : ':' ∉ t) (h : Calm u) : Calm (t ++ u) := by
  induction t with
  | nil => exact h
  | cons c t ih =>
    have hc : c ≠ ':' := Ne.symm (List.ne_of_not_mem_cons ht)
    exact (ih (List.not_mem_of_not_mem_cons ht)).cons hc

theorem calm_of_not_mem {t : Text} (h : ':' ∉ t) : Calm t := by
  have hcalm := calm_nil.append h
  rwa [List.append_nil] at hcalm

/-- Nothing after a character that no scheme has is looked at. -/
theorem calm_of_not_inScheme {c : Char} (hs : Address.inScheme c = false) (hc : c ≠ ':')
    (t : Text) : Calm (c :: t) := by
  unfold Calm
  rw [List.dropWhile_cons_of_neg (by simp [hs])]
  intro he
  exact hc (Option.some.inj he)

/-- What links and delimiters begin with, and what escapes the next character. -/
def leads : Text := ['\\', '[', '\x60', '*', '/', '~', '^', ',', '_', '+']

/-- A character that begins no link and no delimiter and escapes nothing. -/
def standsAlone (c : Char) : Bool := !leads.contains c

theorem standsAlone_iff {c : Char} : standsAlone c = true ↔ c ∉ leads := by
  simp [standsAlone]

/-- No character stands for anything else where none of the leads is allowed. -/
theorem standsAlone_of_all {p : Char → Bool} (hp : leads.all (!p ·) = true) {c : Char}
    (hc : p c = true) : standsAlone c = true :=
  standsAlone_iff.mpr (not_mem_of_all hp (by simp [hc]))

namespace Piece

theorem address?_of_calm {t : Text} (h : Calm t) (prev : Option Char) : address? prev t = none := by
  cases ha : address? prev t with
  | none => rfl
  | some url =>
    obtain ⟨scheme, rest, rfl, hall⟩ := Address.eq_of_hasScheme (hasScheme_of_address? ha)
    obtain ⟨after, rfl⟩ := address?_isPrefix ha
    refine absurd ?_ h
    rw [List.append_assoc, List.dropWhile_append_of_pos hall, List.cons_append,
      List.dropWhile_cons_of_neg (by decide)]
    rfl

theorem delimiter?_of_standsAlone {c : Char} (h : standsAlone c = true) (t : Text) :
    delimiter? (c :: t) = none := by
  refine List.find?_eq_none.mpr fun s _ hs => standsAlone_iff.mp h ?_
  obtain ⟨r, hr⟩ := Option.isSome_iff_exists.mp hs
  have heq := after?_eq_some_iff.mp hr
  cases s <;> (cases heq; decide)

theorem bracketed?_of_ne {c : Char} (hc : c ≠ '[') (t : Text) : bracketed? (c :: t) = none := by
  have hafter : after? ['[', '['] (c :: t) = none := if_neg (Ne.symm hc)
  rw [bracketed?, hafter]
  rfl

/-- Away from monospace such a character is a piece of its own. -/
theorem first_of_standsAlone {c : Char} {t : Text} (hc : standsAlone c = true) (h : Calm (c :: t))
    (prev : Option Char) : first prev false c t = ⟨[c], .char c⟩ := by
  have hslash : c ≠ '\\' := by
    rintro rfl
    cases hc
  have hbracket : c ≠ '[' := by
    rintro rfl
    cases hc
  unfold first
  rw [if_neg Bool.false_ne_true, if_neg hslash, bracketed?_of_ne hbracket, address?_of_calm h,
    delimiter?_of_standsAlone hc]

/-- The piece at the front, and the pieces after it. -/
theorem all_cons {prev : Option Char} {mono : Bool} {c : Char} {t rest : Text} {p : Piece}
    (hp : first prev mono c t = p) (hrest : c :: t = p.source ++ rest) :
    all prev mono (c :: t) = p :: all p.source.getLast? (flips mono p.token) rest := by
  rw [all, hp, hrest, List.drop_left]

end Piece

/-- The tokens of a text after the character `prev`. -/
def tokens (prev : Option Char) (mono : Bool) (t : Text) : List Token :=
  (Piece.all prev mono t).map (·.token)

@[simp] theorem tokens_nil (prev : Option Char) (mono : Bool) : tokens prev mono [] = [] := by
  rw [tokens, Piece.all, List.map_nil]

theorem Span.ofLine_eq (line : Text) : ofLine line = gather (tokens none false line) := rfl

theorem tokens_cons {prev : Option Char} {mono : Bool} {c : Char} {t : Text} {p : Piece}
    (hp : Piece.first prev mono c t = p) (rest : Text) (hrest : c :: t = p.source ++ rest) :
    tokens prev mono (c :: t) =
      p.token :: tokens p.source.getLast? (Piece.flips mono p.token) rest := by
  rw [tokens, Piece.all_cons hp hrest]
  rfl

theorem tokens_of_standsAlone {c : Char} {t : Text} (hc : standsAlone c = true)
    (h : Calm (c :: t)) (prev : Option Char) :
    tokens prev false (c :: t) = .char c :: tokens (some c) false t :=
  tokens_cons (Piece.first_of_standsAlone hc h prev) t rfl

/-- An escaped character is taken as it is. -/
theorem tokens_escaped (prev : Option Char) (c : Char) (t : Text) :
    tokens prev false ('\\' :: c :: t) = .char c :: tokens (some c) false t :=
  tokens_cons (p := ⟨['\\', c], .char c⟩) rfl t rfl

/-- Characters are gathered into one text. -/
theorem Span.gather_chars {t : Text} (ht : t ≠ []) : gather (t.map Token.char) = [.text t] := by
  induction t with
  | nil => exact absurd rfl ht
  | cons c t ih =>
    cases t with
    | nil => rfl
    | cons d t =>
      have hrest := ih (List.cons_ne_nil d t)
      rw [List.map_cons, gather, hrest]

end Wiki
end MarkupBridge
