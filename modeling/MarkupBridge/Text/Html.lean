import MarkupBridge.Text.Basic

namespace MarkupBridge.Text

def htmlChar (c : Char) : Text :=
  if c = '&' then "&amp;".toList
  else if c = '<' then "&lt;".toList
  else if c = '>' then "&gt;".toList
  else [c]

def attributeChar (c : Char) : Text := if c = '"' then "&quot;".toList else htmlChar c

/-- Text of an element. -/
def escapeHtml (t : Text) : Text := t.flatMap htmlChar

/-- Value of an attribute between double quotes. -/
def escapeAttribute (t : Text) : Text := t.flatMap attributeChar

end MarkupBridge.Text
