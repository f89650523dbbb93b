import MarkupBridge.Text.Basic

namespace MarkupBridge.Wiki

inductive Style where
  | bold | italic | strike | mono | super | sub | underline | mark
deriving DecidableEq, Repr

namespace Style

/-- Every style, outermost first where several are in force. -/
def nesting : List Style := [super, sub, underline, mark, bold, italic, strike, mono]

def delimiter : Style → Text
  | bold => ['*', '*']
  | italic => ['/', '/']
  | strike => ['~', '~']
  | mono => ['\x60']
  | super => ['^', '^']
  | sub => [',', ',']
  | underline => ['_', '_']
  | mark => ['+', '+']

theorem mem_nesting (s : Style) : s ∈ nesting := by cases s <;> decide

end Style

/-- The styles in force, in nesting order. -/
structure Styles where
  active : List Style
deriving DecidableEq, Repr

namespace Styles

def none : Styles := ⟨[]⟩

def isOn (s : Styles) (k : Style) : Bool := s.active.contains k

def toggle (s : Styles) (k : Style) : Styles :=
  ⟨Style.nesting.filter fun x => (x == k) != s.isOn x⟩

theorem isOn_filter (p : Style → Bool) (k : Style) :
    Styles.isOn ⟨Style.nesting.filter p⟩ k = p k := by
  rw [isOn, Bool.eq_iff_iff]
  simp [Style.mem_nesting]

end Styles

end MarkupBridge.Wiki
