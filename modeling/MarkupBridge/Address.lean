import MarkupBridge.Text.Blank
import MarkupBridge.Text.Case

namespace MarkupBridge.Address
open Text

/-- Whether the address opens with a scheme such as `https://`. -/
def hasScheme (address : Text) : Bool :=
  match cut? "://".toList address with
  | none => false
  | some (scheme, _) =>
    !scheme.isEmpty && scheme.all fun c => c.isAlphanum || c == '+' || c == '-' || c == '.'

/-- Addresses that name no wiki document and are written as they are. -/
def isVerbatim (address : Text) : Bool :=
  hasScheme address || startsWith "mailto:".toList address || startsWith "tel:".toList address
    || startsWith ['#'] address || startsWith ['/'] address

/-- The one spelling of a document's name: trimmed, in lower case, with `_` for each space. -/
def canonicalName (name : Text) : Text :=
  (lower (trim name)).map fun c => if c = ' ' then '_' else c

end MarkupBridge.Address
