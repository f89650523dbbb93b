import MarkupBridge.Markdown.Entity
import MarkupBridge.Markdown.Passage

namespace MarkupBridge.Markdown.Escape
open Text

/-- The plain text, read with what escapes and references stand for. A backslash keeps punctuation
from meaning anything. -/
def decode : Text → Text
  | [] => []
  | '\\' :: c :: t => if isAsciiPunctuation c then c :: decode t else '\\' :: decode (c :: t)
  | '&' :: t =>
    match _h : Entity.read? 0 t with
    | some (cs, r) => cs ++ decode r
    | none => '&' :: decode t
  | c :: t => c :: decode t
termination_by t => t.length
decreasing_by
  · simp only [List.length_cons]; omega
  · simp
  · have := Entity.read?_length _h; simp only [List.length_cons]; omega
  · simp
  · simp

/-- A line without the pads before its ending. -/
def chopPads (l : Line) : Text :=
  (if l.ending.isEmpty then l.body else dropEndWhile isPad l.body) ++ l.ending

/-- A text without the pads around its line endings; its lines after the first have the margins
`ms`. -/
def tighten (ms : List Margin) (t : Text) : Text :=
  match Line.all t with
  | [] => []
  | l :: ls => chopPads l ++ continued ms ls
where
  continued (ms : List Margin) : List Line → Text
    | [] => []
    | l :: ls =>
      chopPads ⟨Margin.trim (ms.head?.any (·.inTab)) l.body, l.ending⟩ ++ continued ms.tail ls

/-- What a string of several lines says. -/
def plain (ms : List Margin) (t : Text) : Text := decode (tighten ms t)

end MarkupBridge.Markdown.Escape
