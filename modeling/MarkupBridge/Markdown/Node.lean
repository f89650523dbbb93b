import MarkupBridge.Text.Basic

namespace MarkupBridge.Markdown

inductive Align where
  | left | right | center
deriving DecidableEq, Repr

/-- How a reference is written: `[text][label]`, `[label][]` or `[label]`. -/
inductive ReferenceKind where
  | full | collapsed | shortcut
deriving DecidableEq, Repr

/-- What a reference points at: the label's normal form, and the label as written. -/
structure Label where
  identifier : Text
  label : Option Text
deriving DecidableEq, Repr

/-- A destination with its title. -/
structure Resource where
  url : Text
  title : Option Text
deriving DecidableEq, Repr

inductive Node where
  | root (children : List Node)
  | paragraph (children : List Node)
  | heading (depth : Nat) (children : List Node)
  | thematicBreak
  | blockquote (children : List Node)
  | list (ordered : Bool) (start : Option Nat) (spread : Bool) (children : List Node)
  | listItem (checked : Option Bool) (spread : Bool) (children : List Node)
  | code (lang info : Option Text) (value : Text)
  | math (info : Option Text) (value : Text)
  | html (value : Text)
  | definition (label : Label) (resource : Resource)
  | footnoteDefinition (label : Label) (children : List Node)
  | table (align : List (Option Align)) (children : List Node)
  | tableRow (children : List Node)
  | tableCell (children : List Node)
  | yaml (value : Text)
  | toml (value : Text)
  | flowElement (children : List Node)
  | text (value : Text)
  | emphasis (children : List Node)
  | strong (children : List Node)
  | delete (children : List Node)
  | inlineCode (value : Text)
  | inlineMath (value : Text)
  | lineBreak
  | link (resource : Resource) (children : List Node)
  | image (resource : Resource) (alt : Text)
  | linkReference (kind : ReferenceKind) (label : Label) (children : List Node)
  | imageReference (kind : ReferenceKind) (label : Label) (alt : Text)
  | footnoteReference (label : Label)
  | textElement (children : List Node)
  | expression (value : Text)

namespace Node

def children : Node → List Node
  | root cs | paragraph cs | heading _ cs | blockquote cs | list _ _ _ cs | listItem _ _ cs
  | footnoteDefinition _ cs | table _ cs | tableRow cs | tableCell cs | flowElement cs | emphasis cs
  | strong cs | delete cs | link _ cs | linkReference _ _ cs | textElement cs => cs
  | _ => []

mutual

/-- The link definitions in a tree, in the order they are written. -/
def definitions : Node → List (Label × Resource)
  | definition label resource => [(label, resource)]
  | root cs | paragraph cs | heading _ cs | blockquote cs | list _ _ _ cs | listItem _ _ cs
  | footnoteDefinition _ cs | table _ cs | tableRow cs | tableCell cs | flowElement cs | emphasis cs
  | strong cs | delete cs | link _ cs | linkReference _ _ cs | textElement cs => definitionsAll cs
  | _ => []

def definitionsAll : List Node → List (Label × Resource)
  | [] => []
  | n :: ns => definitions n ++ definitionsAll ns

end

mutual

/-- The text of a tree without what marks it up. -/
def plain : Node → Text
  | text t | inlineCode t | inlineMath t | html t | code _ _ t | math _ t | yaml t | toml t
  | expression t => t
  | root cs | paragraph cs | heading _ cs | blockquote cs | list _ _ _ cs | listItem _ _ cs
  | footnoteDefinition _ cs | table _ cs | tableRow cs | tableCell cs | flowElement cs | emphasis cs
  | strong cs | delete cs | link _ cs | linkReference _ _ cs | textElement cs => plainAll cs
  | _ => []

def plainAll : List Node → Text
  | [] => []
  | n :: ns => plain n ++ plainAll ns

end

end Node

end MarkupBridge.Markdown
