import MarkupBridge.Markdown.Character
import MarkupBridge.Proofs.Lines

namespace MarkupBridge.Text

/-- Blanks, ASCII punctuation and the characters of `marks`. -/
def isMarkup (marks : Text) (c : Char) : Bool :=
  isBlank c || Markdown.isAsciiPunctuation c || marks.contains c

/-- A text less its markup, in order. -/
def letters (marks t : Text) : Text := t.filter (!isMarkup marks ·)

variable {marks : Text}

theorem isMarkup_of_isBlank {c : Char} (h : isBlank c = true) : isMarkup marks c = true := by
  simp [isMarkup, h]

@[simp] theorem letters_nil : letters marks [] = [] := rfl

@[simp] theorem letters_append (t u : Text) :
    letters marks (t ++ u) = letters marks t ++ letters marks u := List.filter_append t u

theorem letters_cons (c : Char) (t : Text) :
    letters marks (c :: t) = letters marks [c] ++ letters marks t := letters_append [c] t

theorem letters_eq_nil {t : Text} (h : t.all (isMarkup marks) = true) : letters marks t = [] := by
  refine List.filter_eq_nil_iff.mpr fun c hc => ?_
  simp [List.all_eq_true.mp h c hc]

theorem letters_singleton {c : Char} (h : isMarkup marks c = true) : letters marks [c] = [] :=
  letters_eq_nil (by simp [h])

@[simp] theorem letters_newline : letters marks ['\n'] = [] :=
  letters_singleton (isMarkup_of_isBlank (by decide))

@[simp] theorem letters_newline_cons (t : Text) : letters marks ('\n' :: t) = letters marks t := by
  rw [letters_cons, letters_newline, List.nil_append]

theorem letters_replicate {c : Char} (h : isMarkup marks c = true) (n : Nat) :
    letters marks (List.replicate n c) = [] :=
  letters_eq_nil (List.all_eq_true.mpr fun _ hd => List.eq_of_mem_replicate hd ▸ h)

theorem letters_flatMap (f : α → Text) (l : List α) :
    letters marks (l.flatMap f) = l.flatMap fun a => letters marks (f a) := by
  induction l with
  | nil => rfl
  | cons a l ih => simp [ih]

theorem letters_dropWhile {p : Char → Bool} (hp : ∀ c, p c = true → isMarkup marks c = true)
    (t : Text) : letters marks (t.dropWhile p) = letters marks t := by
  have hnil : letters marks (t.takeWhile p) = [] :=
    letters_eq_nil (List.all_eq_true.mpr fun c hc =>
      hp c (List.all_eq_true.mp List.all_takeWhile c hc))
  calc letters marks (t.dropWhile p)
      = letters marks (t.takeWhile p) ++ letters marks (t.dropWhile p) := by simp [hnil]
    _ = letters marks t := by rw [← letters_append, List.takeWhile_append_dropWhile]

theorem letters_reverse (t : Text) : letters marks t.reverse = (letters marks t).reverse :=
  List.filter_reverse

theorem letters_dropEndWhile {p : Char → Bool} (hp : ∀ c, p c = true → isMarkup marks c = true)
    (t : Text) : letters marks (dropEndWhile p t) = letters marks t := by
  rw [dropEndWhile, letters_reverse, letters_dropWhile hp, letters_reverse, List.reverse_reverse]

theorem letters_dropEndWhile_newline (t : Text) :
    letters marks (dropEndWhile (· == '\n') t) = letters marks t := by
  refine letters_dropEndWhile (fun c hc => ?_) t
  rw [beq_iff_eq.mp hc]
  exact isMarkup_of_isBlank (by decide)

theorem letters_trimEnd (t : Text) : letters marks (trimEnd t) = letters marks t :=
  letters_dropEndWhile (fun _ => isMarkup_of_isBlank) t

@[simp] theorem letters_trim (t : Text) : letters marks (trim t) = letters marks t := by
  rw [trim, letters_trimEnd, trimStart, letters_dropWhile fun _ => isMarkup_of_isBlank]

theorem letters_of_isBlankLine {t : Text} (h : isBlankLine t = true) : letters marks t = [] :=
  letters_eq_nil (List.all_eq_true.mpr fun c hc =>
    isMarkup_of_isBlank (List.all_eq_true.mp h c hc))

theorem letters_dropReturn (l : Text) : letters marks (dropReturn l) = letters marks l := by
  unfold dropReturn
  split
  · next h =>
    obtain ⟨t, rfl⟩ := List.getLast?_eq_some_iff.mp h
    have hreturn : letters marks ['\r'] = [] := letters_singleton (isMarkup_of_isBlank (by decide))
    rw [List.dropLast_concat, letters_append, hreturn, List.append_nil]
  · rfl

theorem letters_endLines (ls : List Text) :
    (endLines ls).flatMap (letters marks) = ls.flatMap (letters marks) := by
  induction ls with
  | nil => rfl
  | cons l ls ih =>
    cases ls with
    | nil => unfold endLines; split <;> simp_all
    | cons m ms =>
      rw [endLines, List.flatMap_cons, letters_dropReturn, ih, List.flatMap_cons]
      · simp
      · exact List.cons_ne_nil m ms

theorem letters_split_newline (t : Text) :
    (split '\n' t).flatMap (letters marks) = letters marks t := by
  induction t with
  | nil => rfl
  | cons c t ih =>
    cases hs : split '\n' t with
    | nil => exact absurd hs (split_ne_nil _ t)
    | cons l ls =>
      by_cases hc : c = '\n'
      · rw [← hs] at *; simp [split, hc, ih]
      · rw [hs] at ih
        rw [letters_cons, ← ih]
        simp [split, hc, hs, letters_cons c l]

/-- The lines of a text say what the text says. -/
theorem letters_lines (t : Text) : (lines t).flatMap (letters marks) = letters marks t := by
  rw [lines, letters_endLines, letters_split_newline]

theorem letters_joinLines (ls : List Text) :
    letters marks (joinLines ls) = ls.flatMap (letters marks) := by
  induction ls with
  | nil => rfl
  | cons l ls ih =>
    cases ls with
    | nil => simp [joinLines]
    | cons m ms =>
      rw [joinLines, letters_append, letters_newline_cons, ih]
      · rfl
      · simp

end MarkupBridge.Text
