import MarkupBridge.Markdown.Dialect
import MarkupBridge.Resolver

namespace MarkupBridge
open Text

structure Options where
  documentName : Option Text
  documentPrefix : Text
  mediaPrefix : Text
  listIndent : Nat
  dialect : Markdown.Dialect
deriving DecidableEq, Repr

namespace Options

def default : Options :=
  ⟨none, Site.default.documentPrefix, Site.default.mediaPrefix, 4, .default⟩

/-- Absent fields are as by default and unknown ones are passed over. -/
def read? (v : Value) : Option Options := do
  let fields ← v.record?
  let field {α : Type} (a b : String) (read : Value → Option α) (value : α) :=
    Value.field? [a.toList, b.toList] read value fields
  return ⟨← field "document_name" "documentName" Value.optionalText? default.documentName,
    ← field "document_prefix" "documentPrefix" Value.text? default.documentPrefix,
    ← field "media_prefix" "mediaPrefix" Value.text? default.mediaPrefix,
    ← field "list_indent" "listIndent" Value.nat? default.listIndent,
    ← Value.field? ["markdown".toList] Markdown.Dialect.read? default.dialect fields⟩

def site (o : Options) : Site :=
  let s : Site := ⟨none, o.documentPrefix, o.mediaPrefix⟩
  o.documentName.elim s s.withDocument

end Options

end MarkupBridge
