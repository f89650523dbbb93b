import MarkupBridge.Value

namespace MarkupBridge.Markdown

/-- Which Markdown is read: `gfm` adds bare addresses, footnotes, strikethrough, tables and tasks;
without `rawHtml` tags are text; `math` adds formulas between dollars. -/
structure Dialect where
  gfm : Bool
  rawHtml : Bool
  codeIndented : Bool
  math : Bool
deriving DecidableEq, Repr

namespace Dialect

def default : Dialect := ⟨true, true, true, false⟩

def read? (v : Value) : Option Dialect := do
  let fields ← v.record?
  let flag (name : String) (value : Bool) := Value.field? [name.toList] Value.bool? value fields
  return ⟨← flag "gfm" default.gfm, ← flag "raw_html" default.rawHtml,
    ← flag "code_indented" default.codeIndented, ← flag "math" default.math⟩

end Dialect

end MarkupBridge.Markdown
