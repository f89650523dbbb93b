import MarkupBridge.Conversion
import MarkupBridge.Markdown.Node
import MarkupBridge.Text.Blank
import MarkupBridge.Text.Case

namespace MarkupBridge.Import
open Text Markdown

inductive Scope where
  | root
  | list (ordered : Bool)
  | item
  | quote
deriving DecidableEq, Repr

namespace Scope

def isList : Scope → Bool
  | list _ => true
  | _ => false

end Scope

/-- Wiki markup in the making, with the scopes around the node at hand, the innermost first. -/
structure Draft where
  text : Text
  scopes : List Scope
  wroteBlock : Bool
  definitions : List (Text × Resource)

/-- Labels are told apart neither by case nor by the blanks between words. -/
def definitionKey (identifier : Text) : Text := lower (join [' '] (words identifier))

namespace Draft

def empty : Draft := ⟨[], [.root], false, []⟩

def write (t : Text) (d : Draft) : Draft := { d with text := d.text ++ t }

def definition? (d : Draft) (identifier : Text) : Option Resource :=
  d.definitions.lookup (definitionKey identifier)

/-- The first definition of a label is the one that counts. -/
def define (identifier : Text) (r : Resource) (d : Draft) : Draft :=
  match d.definition? identifier with
  | some _ => d
  | none => { d with definitions := d.definitions ++ [(definitionKey identifier, r)] }

/-- A blank line parts a block from the one before it. -/
def startBlock (d : Draft) : Draft :=
  { d with text := if d.wroteBlock then d.text ++ ['\n'] else d.text, wroteBlock := true }

def scope (d : Draft) : Scope := d.scopes.headD .root

def isTopLevel (d : Draft) : Bool := d.scope == .root

/-- The number of lists around the node. -/
def listDepth (d : Draft) : Nat := d.scopes.countP (·.isList)

/-- Whether the innermost list is ordered. -/
def inOrderedList (d : Draft) : Bool := d.scopes.find? (·.isList) == some (.list true)

def enter (s : Scope) (d : Draft) : Draft := { d with scopes := s :: d.scopes }

def exit (d : Draft) : Draft := { d with scopes := d.scopes.tail }

/-- What `render` writes, set aside. All else it does is kept. -/
def capture (render : Draft → Draft) (d : Draft) : Text × Draft :=
  let inner := render { d with text := [] }
  (inner.text, { inner with text := d.text })

/-- Nothing is ever warned of in this direction. -/
def finish (d : Draft) : Conversion := ⟨d.text, []⟩

end Draft

end MarkupBridge.Import
