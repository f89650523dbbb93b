import MarkupBridge.Text.Basic

namespace MarkupBridge

/-- Warnings, oldest first. -/
structure Warnings where
  entries : List Text
deriving DecidableEq, Repr

namespace Warnings

def none : Warnings := ⟨[]⟩

def push (w : Warnings) (warning : Text) : Warnings := ⟨w.entries ++ [warning]⟩

def size (w : Warnings) : Nat := w.entries.length

def isEmpty (w : Warnings) : Bool := w.entries.isEmpty

@[simp] theorem entries_push (w : Warnings) (t : Text) :
    (w.push t).entries = w.entries ++ [t] := rfl

end Warnings

/-- What a conversion gives: a text, and a warning for each thing that was lost, in order. -/
structure Conversion where
  text : Text
  warnings : List Text
deriving DecidableEq, Repr

namespace Conversion

def notNeeded : Text := "No conversion needed - already in target format".toList

/-- A text that is already in the wanted grammar. -/
def unchanged (t : Text) : Conversion := ⟨t, [notNeeded]⟩

end Conversion

end MarkupBridge
