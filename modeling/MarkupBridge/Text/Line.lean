import MarkupBridge.Text.Basic

namespace MarkupBridge.Text

def dropReturn (l : Text) : Text := if l.getLast? = some '\r' then l.dropLast else l

def endLines : List Text → List Text
  | [] => []
  | [l] => if l.isEmpty then [] else [l]
  | l :: ls => dropReturn l :: endLines ls

/-- A line ends at a line feed, and one carriage return before that line feed belongs to the ending;
an empty rest after the last line feed is no line. -/
def lines (t : Text) : List Text := endLines (split '\n' t)

/-- The lines with a line feed between any two of them. -/
def joinLines : List Text → Text
  | [] => []
  | [l] => l
  | l :: ls => l ++ '\n' :: joinLines ls

/-- Characters of the lines and one for each line's end. -/
def weight : List Text → Nat
  | [] => 0
  | l :: ls => l.length + 1 + weight ls

@[simp] theorem weight_nil : weight [] = 0 := rfl

@[simp] theorem weight_cons (l : Text) (ls : List Text) :
    weight (l :: ls) = l.length + 1 + weight ls := rfl

theorem weight_append (ls ms : List Text) : weight (ls ++ ms) = weight ls + weight ms := by
  induction ls with
  | nil => simp
  | cons l ls ih => simp only [List.cons_append, weight_cons, ih]; omega

theorem weight_split (mark : Char) (t : Text) : weight (split mark t) = t.length + 1 := by
  induction t with
  | nil => rfl
  | cons c t ih =>
    unfold split
    split
    · simp [ih]; omega
    · split
      · next h => exact absurd h (split_ne_nil mark t)
      · next l ls h => rw [h] at ih; simp at ih ⊢; omega

theorem length_dropReturn_le (l : Text) : (dropReturn l).length ≤ l.length := by
  unfold dropReturn; split <;> simp

theorem weight_endLines_le (ls : List Text) : weight (endLines ls) ≤ weight ls := by
  induction ls with
  | nil => simp [endLines]
  | cons l ls ih =>
    cases ls with
    | nil => unfold endLines; split <;> simp
    | cons m ms =>
      have := length_dropReturn_le l
      simp only [endLines, weight_cons] at ih ⊢
      omega

/-- Taking lines never lengthens a text. -/
theorem weight_lines_le (t : Text) : weight (lines t) ≤ t.length + 1 :=
  weight_split '\n' t ▸ weight_endLines_le (split '\n' t)

theorem length_joinLines (ls : List Text) : (joinLines ls).length = weight ls - 1 := by
  induction ls with
  | nil => rfl
  | cons l ls ih =>
    cases ls with
    | nil => simp [joinLines]
    | cons m ms =>
      simp only [joinLines, List.length_append, List.length_cons, ih, weight_cons]
      omega

end MarkupBridge.Text
