import MarkupBridge.Text.Basic

namespace MarkupBridge.Text

/-- Characters with the Unicode property `White_Space`. -/
def isBlank (c : Char) : Bool :=
  let n := c.toNat
  (0x9 ≤ n && n ≤ 0xD) || n == 0x20 || n == 0x85 || n == 0xA0 || n == 0x1680
    || (0x2000 ≤ n && n ≤ 0x200A) || n == 0x2028 || n == 0x2029 || n == 0x202F || n == 0x205F
    || n == 0x3000

def trimStart (t : Text) : Text := t.dropWhile isBlank

def trimEnd (t : Text) : Text := dropEndWhile isBlank t

def trim (t : Text) : Text := trimEnd (trimStart t)

/-- A line with nothing but blanks. -/
def isBlankLine (t : Text) : Bool := t.all isBlank

/-- The maximal runs of characters that are not blank. -/
def words : Text → List Text
  | [] => []
  | c :: t =>
    if isBlank c then words t
    else (c :: t.takeWhile (!isBlank ·)) :: words (t.dropWhile (!isBlank ·))
termination_by t => t.length
decreasing_by
  · simp
  · exact Nat.lt_succ_of_le (length_dropWhile_le _ _)

theorem length_trim_le (t : Text) : (trim t).length ≤ t.length :=
  Nat.le_trans (length_dropEndWhile_le _ _) (length_dropWhile_le _ _)

end MarkupBridge.Text
