import MarkupBridge.Wiki.Style

namespace MarkupBridge.Wiki

/-- A link as written: its address and the text after the bar. -/
structure Link where
  address : Text
  text : Option Text
deriving DecidableEq, Repr

/-- The text shown for a link. -/
def Link.display (l : Link) : Text := l.text.getD l.address

/-- A toggle flips one style for the rest of its line. -/
inductive Span where
  | text (t : Text)
  | toggle (s : Style)
  | link (l : Link)
deriving DecidableEq, Repr

inductive Marker where
  | unordered | ordered | todo | done
deriving DecidableEq, Repr

/-- A table cell over `colspan` columns. -/
structure Cell (α : Type) where
  contents : α
  colspan : Nat
  header : Bool

abbrev Row (α : Type) := List (Cell α)

/-- A row of header cells alone. -/
def Row.isHead (row : Row α) : Bool := !row.isEmpty && row.all (·.header)

structure ImageEntry (α : Type) where
  target : Text
  width : Option Text
  height : Option Text
  description : α

/-- A launchpad's link. -/
structure Rocket where
  link : Link
  empty : Bool
deriving DecidableEq, Repr

/-- Blocks of a document. An item of a list is the list of its blocks. -/
inductive Block where
  | heading (level : Nat) (lines : List (List Span))
  | paragraph (lines : List (List Span))
  | code (language : Option Text) (contents : Text)
  | list (marker : Marker) (items : List (List Block))
  | rule
  | quote (contents : List Block)
  | table (caption : Option Text) (rows : List (List (Cell (List Block))))
  | image (layout : Option Text) (entries : List (ImageEntry (List Block)))
  | launchpad (rockets : List Rocket)
  | transclusion (target : Text)
  | unknown (kind : Text)

namespace Block

/-- The language that stands for none. -/
def unspecifiedLanguage : Text := "plain".toList

/-- A code block's language unless it stands for none. -/
def explicitLanguage? (language : Option Text) : Option Text :=
  language.filter fun l => !l.isEmpty && l != unspecifiedLanguage

end Block

end MarkupBridge.Wiki
