import MarkupBridge.Text.Line

namespace MarkupBridge.Wiki
open Text

/-- The text up to the brace that closes `depth` open ones, and what follows it. A brace that never
closes holds all that follows. -/
def inBraces (depth : Nat) : Text → Text × Text
  | [] => ([], [])
  | c :: t =>
    if c = '\x7d' ∧ depth ≤ 1 then ([], t)
    else
      let depth := if c = '\x7b' then depth + 1 else if c = '\x7d' then depth - 1 else depth
      let (inside, rest) := inBraces depth t
      (c :: inside, rest)

/-- The body that begins with `inside` and ends at its brace, and the lines after it. What follows
the brace on its own line is lost. -/
def bracedBody (inside : Text) (ls : List Text) : Text × List Text :=
  let body := (inBraces 1 (joinLines (inside :: ls))).1
  (body, ls.drop (body.count '\n'))

theorem length_inBraces (depth : Nat) (t : Text) :
    (inBraces depth t).1.length ≤ t.length ∧ (inBraces depth t).2.length ≤ t.length := by
  induction t generalizing depth with
  | nil => simp [inBraces]
  | cons c t ih =>
    unfold inBraces
    split
    · simp
    · have := ih (if c = '\x7b' then depth + 1 else if c = '\x7d' then depth - 1 else depth)
      simp only [List.length_cons]
      omega

theorem length_bracedBody_le (inside : Text) (ls : List Text) :
    (bracedBody inside ls).1.length ≤ inside.length + weight ls ∧
      (bracedBody inside ls).2.length ≤ ls.length := by
  have h := (length_inBraces 1 (joinLines (inside :: ls))).1
  rw [length_joinLines, weight_cons] at h
  exact ⟨by simp only [bracedBody]; omega, by simp [bracedBody]⟩

end MarkupBridge.Wiki
