import MarkupBridge.Wiki.Piece

namespace MarkupBridge.Wiki

def Span.gather : List Token → List Span
  | [] => []
  | .char c :: ts => match gather ts with
    | .text t :: ss => .text (c :: t) :: ss
    | ss => .text [c] :: ss
  | .toggle s :: ts => .toggle s :: gather ts
  | .link l :: ts => .link l :: gather ts

/-- The spans of a line. Delimiters are never matched: each one is a toggle. -/
def Span.ofLine (line : Text) : List Span :=
  gather ((Piece.all none false line).map (·.token))

end MarkupBridge.Wiki
