namespace MarkupBridge

abbrev Text := List Char

namespace Text

/-- What follows `mark` in a text that begins with it. -/
def after? : Text → Text → Option Text
  | [], t => some t
  | _ :: _, [] => none
  | m :: mark, c :: t => if m = c then after? mark t else none

def startsWith (mark t : Text) : Bool := (after? mark t).isSome

/-- The text around the first `mark`. -/
def cutChar? (mark : Char) : Text → Option (Text × Text)
  | [] => none
  | c :: t => if c = mark then some ([], t) else (cutChar? mark t).map fun (a, b) => (c :: a, b)

/-- The text around the first `mark`. -/
def cut? (mark : Text) : Text → Option (Text × Text)
  | [] => (after? mark []).map fun b => ([], b)
  | c :: t => match after? mark (c :: t) with
    | some b => some ([], b)
    | none => (cut? mark t).map fun (a, b) => (c :: a, b)

/-- The text around the last `mark`. -/
def cutLast? (mark : Char) (t : Text) : Option (Text × Text) :=
  (cutChar? mark t.reverse).map fun (b, a) => (a.reverse, b.reverse)

/-- The stretches between the marks, one more than there are marks. -/
def split (mark : Char) : Text → List Text
  | [] => [[]]
  | c :: t =>
    if c = mark then [] :: split mark t
    else match split mark t with
      | [] => [[c]]
      | l :: ls => (c :: l) :: ls

def dropEndWhile (p : Char → Bool) (t : Text) : Text := (t.reverse.dropWhile p).reverse

def join (mark : Text) : List Text → Text
  | [] => []
  | [t] => t
  | t :: ts => t ++ mark ++ join mark ts

/-- A text unless it is empty. -/
def nonempty? (t : Text) : Option Text := if t.isEmpty then none else some t

theorem after?_eq_some_iff {mark t r : Text} : after? mark t = some r ↔ t = mark ++ r := by
  induction mark generalizing t with
  | nil => simp [after?]
  | cons m mark ih =>
    cases t with
    | nil => simp [after?]
    | cons c t =>
      by_cases h : m = c
      · simp [after?, h, ih]
      · simp [after?, h, Ne.symm h]

theorem eq_of_cutChar? {mark : Char} {t a b : Text} (h : cutChar? mark t = some (a, b)) :
    t = a ++ mark :: b := by
  induction t generalizing a with
  | nil => simp [cutChar?] at h
  | cons c t ih =>
    unfold cutChar? at h
    split at h
    · next hc => cases h; simp [hc]
    · obtain ⟨⟨a', b'⟩, hr, he⟩ := Option.map_eq_some_iff.1 h
      cases he
      simp [ih hr]

theorem eq_of_cut? {mark t a b : Text} (h : cut? mark t = some (a, b)) : t = a ++ mark ++ b := by
  induction t generalizing a with
  | nil =>
    obtain ⟨r, hr, he⟩ := Option.map_eq_some_iff.1 h
    cases he
    simpa using after?_eq_some_iff.1 hr
  | cons c t ih =>
    unfold cut? at h
    split at h
    · next hr => cases h; simpa using after?_eq_some_iff.1 hr
    · obtain ⟨⟨a', b'⟩, hr, he⟩ := Option.map_eq_some_iff.1 h
      cases he
      simp [ih hr]

theorem split_ne_nil (mark : Char) (t : Text) : split mark t ≠ [] := by
  cases t with
  | nil => simp [split]
  | cons c t =>
    unfold split
    split
    · simp
    · split <;> simp

/-- Joining undoes splitting. -/
theorem join_split (mark : Char) (t : Text) : join [mark] (split mark t) = t := by
  induction t with
  | nil => rfl
  | cons c t ih =>
    unfold split
    split
    · next h =>
      subst h
      cases hs : split c t with
      | nil => exact absurd hs (split_ne_nil c t)
      | cons l ls => rw [hs] at ih; simp [join, ih]
    · split
      · next h => exact absurd h (split_ne_nil mark t)
      · next l ls h =>
        rw [h] at ih
        cases ls with
        | nil => simpa [join] using ih
        | cons m ms => simpa [join] using ih

theorem length_dropWhile_le (p : α → Bool) (l : List α) : (l.dropWhile p).length ≤ l.length :=
  (List.dropWhile_suffix p).length_le

theorem length_takeWhile_le (p : α → Bool) (l : List α) : (l.takeWhile p).length ≤ l.length :=
  (List.takeWhile_prefix p).length_le

theorem dropEndWhile_isPrefix (p : Char → Bool) (t : Text) : dropEndWhile p t <+: t := by
  rw [← List.reverse_suffix]
  simpa [dropEndWhile] using List.dropWhile_suffix p (l := t.reverse)

theorem length_dropEndWhile_le (p : Char → Bool) (t : Text) :
    (dropEndWhile p t).length ≤ t.length := by
  simpa [dropEndWhile] using length_dropWhile_le p t.reverse

end Text

end MarkupBridge
