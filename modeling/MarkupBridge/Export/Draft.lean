import MarkupBridge.Conversion
import MarkupBridge.Resolver
import MarkupBridge.Text.Html

namespace MarkupBridge.Export
open Text

/-- What a conversion to Markdown is told: how links resolve, and how many spaces a level of list
nesting takes. -/
structure Setting where
  resolver : Resolver
  listIndent : Nat

def Setting.indentation (s : Setting) (depth : Nat) : Text :=
  List.replicate (s.listIndent * depth) ' '

/-- Markdown in the making: the text so far and the warnings so far. -/
structure Draft where
  text : Text
  warnings : Warnings

namespace Draft

def empty : Draft := ⟨[], .none⟩

def write (t : Text) (d : Draft) : Draft := { d with text := d.text ++ t }

def writeHtml (t : Text) (d : Draft) : Draft := d.write (escapeHtml t)

def writeAttribute (t : Text) (d : Draft) : Draft := d.write (escapeAttribute t)

def warn (warning : Text) (d : Draft) : Draft := { d with warnings := d.warnings.push warning }

/-- What `render` writes, set aside. Its warnings are kept. -/
def capture (render : Draft → Draft) (d : Draft) : Text × Draft :=
  let inner := render { d with text := [] }
  (inner.text, { inner with text := d.text })

def finish (d : Draft) : Conversion := ⟨d.text, d.warnings.entries⟩

end Draft

end MarkupBridge.Export
