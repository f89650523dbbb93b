import MarkupBridge.Markdown.Definition

namespace MarkupBridge.Markdown

/-- What stands before an item: a bullet, or a number with the character after it. -/
structure Marker where
  sign : Char
  start : Option Nat
deriving DecidableEq, Repr

/-- The text of a table's cell, with the characters on its two sides. -/
structure Cell where
  before : Option Char
  text : Text
  after : Option Char
deriving DecidableEq, Repr

/-- A block before the text inside it is read. An item is `bare` if nothing stands behind its
marker. -/
inductive Block where
  | paragraph (text : Passage)
  | heading (depth : Nat) (text : Passage)
  | rule
  | quote (blocks : List Block)
  | list (marker : Marker) (spread : Bool) (items : List Block)
  | item (bare spread : Bool) (blocks : List Block)
  | code (lang info : Option Text) (value : Text)
  | math (info : Option Text) (value : Text)
  | html (value : Text)
  | definition (d : Definition)
  | footnote (label : Label) (blocks : List Block)
  | table (align : List (Option Align)) (rows : List (List Cell))

namespace Block

mutual

/-- The labels that the definitions in a block give a meaning. -/
def defined : Block → List Text
  | definition d => [d.label.identifier]
  | quote bs | list _ _ bs | item _ _ bs | footnote _ bs => definedAll bs
  | _ => []

def definedAll : List Block → List Text
  | [] => []
  | b :: bs => b.defined ++ definedAll bs

end

mutual

/-- The labels of the footnotes in a block. -/
def footnotes : Block → List Text
  | footnote label bs => label.identifier :: footnotesAll bs
  | quote bs | list _ _ bs | item _ _ bs => footnotesAll bs
  | _ => []

def footnotesAll : List Block → List Text
  | [] => []
  | b :: bs => b.footnotes ++ footnotesAll bs

end

end Block

end MarkupBridge.Markdown
