import MarkupBridge.Text.CaseTable
import MarkupBridge.Text.Basic

namespace MarkupBridge.Text

def inRanges (ranges : List (Nat × Nat)) (c : Char) : Bool :=
  ranges.any fun (first, last) => first ≤ c.toNat && c.toNat ≤ last

def CaseRun.map? (r : CaseRun) (n : Nat) : Option Nat :=
  if r.first ≤ n && n ≤ r.last && (n - r.first) % r.step == 0 then some (r.target + (n - r.first))
  else none

def isCaseIgnorable (c : Char) : Bool := inRanges caseIgnorable c

/-- Whether the first character that is not skipped has a case. -/
def meetsCased (t : Text) : Bool :=
  match t.dropWhile isCaseIgnorable with
  | [] => false
  | c :: _ => inRanges cased c

def lowerChar (c : Char) : Text :=
  if c.toNat < 0x80 then [c.toLower]
  else if c = 'İ' then ['i', '\u0307']
  else [((lowerRuns.findSome? (·.map? c.toNat)).map Char.ofNat).getD c]

def upperChar (c : Char) : Text :=
  if c.toNat < 0x80 then [c.toUpper]
  else match longUppers.find? (·.1 == c.toNat) with
    | some (_, ns) => ns.map Char.ofNat
    | none => [((upperRuns.findSome? (·.map? c.toNat)).map Char.ofNat).getD c]

/-- Lower case of a text after `before`, which is reversed. -/
def lowerAfter (before : Text) : Text → Text
  | [] => []
  | c :: t =>
    (if c = 'Σ' then [if meetsCased before && !meetsCased t then 'ς' else 'σ'] else lowerChar c)
      ++ lowerAfter (c :: before) t

/-- Lower case of a text, for every script. A character may become several, and a capital sigma that
ends a word becomes the final form. -/
def lower (t : Text) : Text := lowerAfter [] t

def upper (t : Text) : Text := t.flatMap upperChar

/-- Lower case of the Latin letters alone. -/
def lowerAscii (t : Text) : Text := t.map Char.toLower

end MarkupBridge.Text
