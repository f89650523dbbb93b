import MarkupBridge.Text.Blank
import MarkupBridge.Wiki.Braces
import MarkupBridge.Wiki.Document

namespace MarkupBridge.Wiki.Gallery
open Text

/-- A line of a gallery: what is written outside braces, and the text in the last ones. -/
structure Draft where
  head : Text
  description : Option Text

/-- The line begun by `t`, and the lines after it. -/
def drafts : Text → Draft × List Draft
  | [] => (⟨[], none⟩, [])
  | c :: t =>
    if c = '\n' then
      let (d, ds) := drafts t
      (⟨[], none⟩, d :: ds)
    else if c = '\x7b' then
      let (d, ds) := drafts (inBraces 1 t).2
      (⟨d.head, d.description.or (some (inBraces 1 t).1)⟩, ds)
    else
      let (d, ds) := drafts t
      (⟨c :: d.head, d.description⟩, ds)
termination_by t => t.length
decreasing_by
  · simp
  · exact Nat.lt_succ_of_le (length_inBraces 1 t).2
  · simp

def isDimension (t : Text) : Bool :=
  t.head?.any Char.isDigit && t.all fun c => c.isAlphanum || c == '.' || c == '%'

/-- A width, or a width and a height around an asterisk. -/
def dimensions? (size : Text) : Option (Text × Option Text) :=
  match cutChar? '*' size with
  | some (width, height) =>
    if isDimension (trim width) && isDimension (trim height) then
      some (trim width, some (trim height))
    else none
  | none => if isDimension size then some (size, none) else none

/-- The image of a line; what stands for its size and is none describes it, unless braces do. -/
def Draft.image? (d : Draft) : Option (ImageEntry Text) :=
  let (target, size) := ((cutChar? '|' d.head).map fun (a, b) => (trim a, trim b)).getD
    (trim d.head, [])
  if target.isEmpty then none
  else match dimensions? size with
  | some (width, height) => some ⟨target, some width, height, trim (d.description.getD [])⟩
  | none => some ⟨target, none, none, trim (d.description.getD size)⟩

/-- The images of a block's body, each with the text that describes it. -/
def read (body : Text) : List (ImageEntry Text) :=
  let (d, ds) := drafts body
  (d :: ds).filterMap (·.image?)

def Draft.Within (n : Nat) (d : Draft) : Prop :=
  d.head.length ≤ n ∧ ∀ t, d.description = some t → t.length ≤ n

theorem Draft.Within.mono {n m : Nat} {d : Draft} (h : d.Within n) (hm : n ≤ m) : d.Within m :=
  ⟨Nat.le_trans h.1 hm, fun t ht => Nat.le_trans (h.2 t ht) hm⟩

theorem drafts_within (t : Text) :
    (drafts t).1.Within t.length ∧ ∀ d ∈ (drafts t).2, d.Within t.length := by
  fun_induction drafts t with
  | case1 => simp [Draft.Within]
  | case2 t d ds h ih =>
    rw [h] at ih
    refine ⟨by simp [Draft.Within], fun x hx => ?_⟩
    rcases List.mem_cons.1 hx with rfl | hx
    · exact ih.1.mono (by simp)
    · exact (ih.2 x hx).mono (by simp)
  | case3 t d ds h _ ih =>
    rw [h] at ih
    have hl := length_inBraces 1 t
    have hm : (inBraces 1 t).2.length ≤ ('\x7b' :: t).length := Nat.le_succ_of_le hl.2
    refine ⟨⟨(ih.1.mono hm).1, fun x hx => ?_⟩, fun x hx => (ih.2 x hx).mono hm⟩
    cases hd : d.description with
    | none => simp [hd] at hx; subst hx; simp only [List.length_cons]; omega
    | some y => simp [hd] at hx; exact (ih.1.mono hm).2 x (by simp [hd, hx])
  | case4 c t _ _ d ds h ih =>
    rw [h] at ih
    refine ⟨⟨by simpa using ih.1.1, (ih.1.mono (by simp)).2⟩,
      fun x hx => (ih.2 x hx).mono (by simp)⟩

theorem length_of_cutChar? {mark : Char} {t a b : Text} (h : cutChar? mark t = some (a, b)) :
    a.length ≤ t.length ∧ b.length ≤ t.length := by
  rw [eq_of_cutChar? h]
  simp only [List.length_append, List.length_cons]
  omega

theorem Draft.Within.description_le {n : Nat} {d : Draft} (h : d.Within n) {e : ImageEntry Text}
    (he : d.image? = some e) : e.description.length ≤ n := by
  have size_le : (((cutChar? '|' d.head).map fun (a, b) => (trim a, trim b)).getD
      (trim d.head, [])).2.length ≤ n := by
    cases hc : cutChar? '|' d.head with
    | none => simp
    | some p =>
      have := (length_of_cutChar? hc).2
      have := length_trim_le p.2
      have := h.1
      simp only [Option.map_some, Option.getD_some]
      omega
  unfold image? at he
  split at he
  next target size hs =>
  rw [hs] at size_le
  split at he
  · cases he
  split at he
  · cases he
    cases hd : d.description with
    | none => simp [trim, trimEnd, trimStart, dropEndWhile]
    | some t => exact Nat.le_trans (length_trim_le _) (by simpa using h.2 t hd)
  · cases he
    cases hd : d.description with
    | none => exact Nat.le_trans (length_trim_le _) (by simpa using size_le)
    | some t => exact Nat.le_trans (length_trim_le _) (by simpa using h.2 t hd)

/-- A description is no longer than the body it stands in. -/
theorem length_read_le {body : Text} {e : ImageEntry Text} (h : e ∈ read body) :
    e.description.length ≤ body.length := by
  obtain ⟨d, hd, he⟩ := List.mem_filterMap.1 h
  rcases List.mem_cons.1 hd with rfl | hd
  · exact (drafts_within body).1.description_le he
  · exact ((drafts_within body).2 d hd).description_le he

end MarkupBridge.Wiki.Gallery
