import MarkupBridge.Export.Line
import MarkupBridge.Proofs.Letters
import MarkupBridge.Wiki.Line

namespace MarkupBridge
open Text

namespace Wiki

/-- The marks that open tables, images, fences, embeds, rockets and links. -/
def linkingMarks : List Text :=
  ["\x7b".toList, "\x60\x60\x60".toList, "<=".toList, "=>".toList, "[[".toList, "://".toList]

/-- A text in which none of the linking marks occurs. -/
def IsPlain (t : Text) : Prop := ∀ mark ∈ linkingMarks, ¬ mark <:+: t

theorem IsPlain.of_isInfix {t u : Text} (h : IsPlain t) (hu : u <:+: t) : IsPlain u :=
  fun mark hm hi => h mark hm (hi.trans hu)

theorem IsPlain.not_startsWith {t : Text} (h : IsPlain t) (mark : Text) (hm : mark ∈ linkingMarks) :
    startsWith mark t = false :=
  Bool.eq_false_iff.mpr fun hs => h mark hm (startsWith_iff.mp hs).isInfix

/-- None of the linking marks runs over the end of a line. -/
theorem IsPlain.joinLines {ls : List Text} (h : ∀ l ∈ ls, IsPlain l) : IsPlain (joinLines ls) := by
  intro mark hm hi
  have hmark : ∀ mark ∈ linkingMarks, '\n' ∉ mark ∧ mark ≠ [] := by decide
  obtain ⟨l, hl, hi⟩ := exists_isInfix_of_joinLines (hmark mark hm).1 (hmark mark hm).2 hi
  exact h l hl mark hm hi

/-- The character a token stands for. -/
def Token.chars : Token → Text
  | .char c => [c]
  | _ => []

/-- The text of a span. -/
def Span.chars : Span → Text
  | .text t => t
  | _ => []

namespace Piece

theorem bracketed?_eq_none {t : Text} (h : IsPlain t) : bracketed? t = none := by
  have hb : after? ['[', '['] t = none := by
    simpa [startsWith] using h.not_startsWith ['[', '['] (by decide)
  simp [bracketed?, hb]

theorem address?_eq_none {t : Text} (h : IsPlain t) (prev : Option Char) :
    address? prev t = none := by
  cases ha : address? prev t with
  | none => rfl
  | some url =>
    have hs := hasScheme_of_address? ha
    unfold Address.hasScheme at hs
    split at hs
    · cases hs
    · next scheme rest hcut =>
      have hi : "://".toList <:+: url := ⟨scheme, rest, (eq_of_cut? hcut).symm⟩
      exact absurd (hi.trans (address?_isPrefix ha).isInfix) (h _ (by decide))

variable (marks : Text)

/-- A piece of plain text is no link, and is marked up apart from its character. -/
theorem first_of_isPlain {c : Char} {t : Text} (h : IsPlain (c :: t)) (prev : Option Char)
    (mono : Bool) :
    letters marks (first prev mono c t).source = letters marks (first prev mono c t).token.chars ∧
      ∀ l, (first prev mono c t).token ≠ .link l := by
  have hmark : ∀ d, Markdown.isAsciiPunctuation d = true → letters marks [d] = [] :=
    fun d hd => letters_singleton (by simp [isMarkup, hd])
  unfold first
  rw [bracketed?_eq_none h, address?_eq_none h]
  split
  · split
    · next hc => exact ⟨by rw [hc, hmark _ (by decide)]; rfl, by simp⟩
    · exact ⟨rfl, by simp⟩
  split
  · next hc =>
    split
    · exact ⟨rfl, by simp⟩
    · next d _ =>
      refine ⟨?_, by simp⟩
      rw [letters_cons, hc, hmark _ (by decide)]
      rfl
  simp only
  split
  · next s _ =>
    refine ⟨letters_eq_nil ?_, by simp⟩
    refine List.all_eq_true.mpr fun d hd => ?_
    have : Markdown.isAsciiPunctuation d = true := by
      cases s <;> simp [Style.delimiter] at hd <;> subst hd <;> decide
    simp [isMarkup, this]
  · exact ⟨rfl, by simp⟩

/-- The pieces of plain text say what the text says, and none of them is a link. -/
theorem all_of_isPlain {t : Text} (h : IsPlain t) (prev : Option Char) (mono : Bool) :
    ((all prev mono t).flatMap fun p => letters marks p.token.chars) = letters marks t ∧
      ∀ l, Token.link l ∉ (all prev mono t).map (·.token) := by
  fun_induction all prev mono t with
  | case1 => simp
  | case2 prev mono c t p ih =>
    obtain ⟨hp, hlink⟩ := first_of_isPlain marks h prev mono
    obtain ⟨rest, hrest⟩ := first_source_isPrefix prev mono c t
    have hdrop : (c :: t).drop p.source.length = rest := by
      rw [← hrest]
      exact List.drop_left
    rw [hdrop] at ih ⊢
    obtain ⟨hs, hl⟩ := ih (h.of_isInfix ⟨p.source, [], by rw [List.append_nil]; exact hrest⟩)
    constructor
    · rw [List.flatMap_cons, hs, ← hrest, letters_append, hp]
    · intro l hm
      rcases List.mem_cons.mp hm with he | hm
      · exact hlink l he.symm
      · exact hl l hm

end Piece

namespace Span

theorem chars_gather (ts : List Token) :
    (gather ts).flatMap Span.chars = ts.flatMap Token.chars := by
  fun_induction gather ts with
  | case1 => rfl
  | case2 c ts t ss hg ih => rw [hg] at ih; simp [Span.chars, Token.chars, ← ih]
  | case3 c ts _ ih => simp [Span.chars, Token.chars, ih]
  | case4 s ts ih => simpa [Span.chars, Token.chars] using ih
  | case5 l ts ih => simpa [Span.chars, Token.chars] using ih

theorem token_of_mem_gather {ts : List Token} {l : Link} (h : .link l ∈ gather ts) :
    Token.link l ∈ ts := by
  fun_induction gather ts with
  | case1 => simp at h
  | case2 c ts t ss hg ih => rw [hg] at ih; simp_all
  | case3 c ts _ ih => simp_all
  | case4 s ts ih => simp_all
  | case5 m ts ih =>
    rcases List.mem_cons.mp h with he | h
    · cases he; exact List.mem_cons_self
    · exact List.mem_cons_of_mem _ (ih h)

variable (marks : Text)

/-- The spans of a plain line are texts and toggles, and the texts say what the line says. -/
theorem ofLine_of_isPlain {t : Text} (h : IsPlain t) :
    letters marks ((ofLine t).flatMap Span.chars) = letters marks t ∧
      ∀ l, Span.link l ∉ ofLine t := by
  obtain ⟨hs, hl⟩ := Piece.all_of_isPlain marks h none false
  refine ⟨?_, fun l hm => hl l (token_of_mem_gather hm)⟩
  rw [ofLine, chars_gather, List.flatMap_map, letters_flatMap, hs]

end Span
end Wiki

namespace Export
open Wiki

/-- The letters of the tags and of the markers that stand for styles, tasks and numbers. -/
def marks : Text := "1abkmprsuvx".toList

@[simp] theorem letters_opening (s : Style) : letters marks (opening s) = [] := by
  cases s <;> rfl

@[simp] theorem letters_closing (s : Style) : letters marks (closing s) = [] := by
  cases s <;> rfl

@[simp] theorem letters_styled (styles : Styles) (t : Text) :
    letters marks (styled styles t) = letters marks t := by
  have hnil : ∀ (f : Style → Text) (ss : List Style), (∀ s, letters marks (f s) = []) →
      letters marks (ss.flatMap f) = [] := by
    intro f ss hf
    rw [letters_flatMap, List.flatMap_eq_nil_iff]
    exact fun s _ => hf s
  simp [styled, hnil opening _ letters_opening, hnil closing _ letters_closing]

theorem letters_spans (r : Resolver) (styles : Styles) {ss : List Span}
    (h : ∀ l, Span.link l ∉ ss) :
    letters marks (spans r styles ss) = letters marks (ss.flatMap Span.chars) := by
  induction ss generalizing styles with
  | nil => rfl
  | cons s ss ih =>
    have hss : ∀ l, Span.link l ∉ ss := fun l hm => h l (List.mem_cons_of_mem _ hm)
    cases s with
    | text t => simp [spans, Span.chars, ih styles hss]
    | toggle k => simpa [spans, Span.chars] using ih (styles.toggle k) hss
    | link l => exact absurd List.mem_cons_self (h l)

/-- Whatever is toggled on a plain line, what it says is written once and in order. -/
theorem letters_line (r : Resolver) {t : Text} (h : IsPlain t) :
    letters marks (line r (Span.ofLine t)) = letters marks t := by
  obtain ⟨hs, hl⟩ := Span.ofLine_of_isPlain marks h
  rw [line, letters_spans r .none hl, hs]

theorem letters_join (ls : List Text) :
    letters marks (join ['\n'] ls) = ls.flatMap (letters marks) := by
  induction ls with
  | nil => rfl
  | cons l ls ih =>
    cases ls with
    | nil => simp [join]
    | cons m ms =>
      rw [join, letters_append, letters_append, letters_newline, ih]
      · simp
      · exact List.cons_ne_nil m ms

/-- Lines of a paragraph, each trimmed before it is read. -/
theorem letters_lines_trim (r : Resolver) {ls : List Text} (h : ∀ l ∈ ls, IsPlain l) :
    letters marks (lines r (ls.map fun l => Span.ofLine (trim l))) =
      ls.flatMap (letters marks) := by
  induction ls with
  | nil => rfl
  | cons l ls ih =>
    have ih := ih fun m hm => h m (List.mem_cons_of_mem _ hm)
    rw [lines, letters_join] at ih ⊢
    have hl := letters_line r ((h l List.mem_cons_self).of_isInfix (trim_isInfix l))
    simp only [List.map_cons, List.flatMap_cons, hl, letters_trim, ih]

end Export
end MarkupBridge
