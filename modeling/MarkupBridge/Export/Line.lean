import MarkupBridge.Export.Draft
import MarkupBridge.Text.Case
import MarkupBridge.Wiki.Document

namespace MarkupBridge.Export
open Text Wiki

/-- Styles that Markdown lacks are HTML elements. -/
def opening : Style → Text
  | .super => "<sup>".toList
  | .sub => "<sub>".toList
  | .underline => "<u>".toList
  | .mark => "<mark>".toList
  | .bold => ['*', '*']
  | .italic => ['*']
  | .strike => ['~', '~']
  | .mono => ['\x60']

def closing : Style → Text
  | .super => "</sup>".toList
  | .sub => "</sub>".toList
  | .underline => "</u>".toList
  | .mark => "</mark>".toList
  | s => opening s

/-- A text between the marks of its styles, the outermost first. -/
def styled (styles : Styles) (t : Text) : Text :=
  styles.active.flatMap opening ++ t ++ styles.active.reverse.flatMap closing

/-- The target as written: without the prefix of wiki documents, and in the spelling of the text if
they differ in case alone. -/
def destination (r : Resolver) (l : Link) : Text :=
  let target := r.resolve l.address
  let href := if target.isInternal && !r.documentPrefix.isEmpty then
      (after? r.documentPrefix target.href).getD target.href
    else target.href
  if lower l.display = lower href then l.display else href

def link (r : Resolver) (l : Link) : Text :=
  ['['] ++ l.display ++ [']', '('] ++ destination r l ++ [')']

/-- A text is wrapped in the styles in force where it stands, so a style left open ends with its
line. -/
def spans (r : Resolver) (styles : Styles) : List Span → Text
  | [] => []
  | .toggle s :: ss => spans r (styles.toggle s) ss
  | .text t :: ss => styled styles t ++ spans r styles ss
  | .link l :: ss => link r l ++ spans r styles ss

def line (r : Resolver) (ss : List Span) : Text := spans r .none ss

/-- Lines with a line feed between any two of them. -/
def lines (r : Resolver) (ls : List (List Span)) : Text := join ['\n'] (ls.map (line r))

end MarkupBridge.Export
