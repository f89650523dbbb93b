import MarkupBridge.Address
import MarkupBridge.Wiki.Document

namespace MarkupBridge.Wiki
open Text

inductive Token where
  | char (c : Char)
  | toggle (s : Style)
  | link (l : Link)
deriving DecidableEq, Repr

/-- A token with the stretch of the line it was read from. -/
structure Piece where
  source : Text
  token : Token
deriving DecidableEq, Repr

/-- An address with the text after the first bar, both trimmed. -/
def Link.read (t : Text) : Link :=
  match cutChar? '|' t with
  | some (address, text) => ⟨trim address, nonempty? (trim text)⟩
  | none => ⟨trim t, none⟩

namespace Piece

/-- The inside of a link in double brackets that has an address, and what follows the link. -/
def bracketed? (t : Text) : Option (Text × Text) :=
  ((after? ['[', '['] t).bind (cut? [']', ']'])).filter fun (inside, _) =>
    !(Link.read inside).address.isEmpty

def trailing (c : Char) : Bool := ['.', ',', ';', ':', '!', '?', ')'].contains c

/-- A word starts where the line does, after a blank or after an opening parenthesis. -/
def startsWord : Option Char → Bool
  | none => true
  | some c => isBlank c || c == '('

/-- An address with a scheme at the start of a word, up to a blank and less the punctuation
before it. -/
def address? (prev : Option Char) (t : Text) : Option Text :=
  let url := dropEndWhile trailing (t.takeWhile (!isBlank ·))
  if startsWord prev && Address.hasScheme url && !startsWith "//:".toList url.reverse then some url
  else none

def delimiter? (t : Text) : Option Style :=
  Style.nesting.find? fun s => startsWith s.delimiter t

/-- The piece that begins with `c`, after the character `prev`. In monospace only its closing
delimiter is read. -/
def first (prev : Option Char) (mono : Bool) (c : Char) (t : Text) : Piece :=
  if mono then
    if c = '\x60' then ⟨[c], .toggle .mono⟩ else ⟨[c], .char c⟩
  else if c = '\\' then
    match t with
    | [] => ⟨[c], .char c⟩
    | d :: _ => ⟨[c, d], .char d⟩
  else match bracketed? (c :: t) with
  | some (inside, _) => ⟨['[', '['] ++ inside ++ [']', ']'], .link (Link.read inside)⟩
  | none => match address? prev (c :: t) with
    | some url => ⟨url, .link ⟨url, none⟩⟩
    | none => match delimiter? (c :: t) with
      | some s => ⟨s.delimiter, .toggle s⟩
      | none => ⟨[c], .char c⟩

def flips (mono : Bool) : Token → Bool
  | .toggle .mono => !mono
  | _ => mono

theorem bracketed?_eq {t inside rest : Text} (h : bracketed? t = some (inside, rest)) :
    t = ['[', '['] ++ inside ++ [']', ']'] ++ rest := by
  obtain ⟨hb, -⟩ := Option.filter_eq_some_iff.1 h
  obtain ⟨u, hu, hc⟩ := Option.bind_eq_some_iff.1 hb
  rw [after?_eq_some_iff.1 hu, eq_of_cut? hc]
  simp

theorem address?_isPrefix {prev : Option Char} {t url : Text} (h : address? prev t = some url) :
    url <+: t := by
  simp only [address?, Option.ite_none_right_eq_some, Option.some.injEq] at h
  exact h.2 ▸ (dropEndWhile_isPrefix _ _).trans (List.takeWhile_prefix _)

theorem hasScheme_of_address? {prev : Option Char} {t url : Text}
    (h : address? prev t = some url) : Address.hasScheme url = true := by
  simp only [address?, Option.ite_none_right_eq_some, Option.some.injEq] at h
  obtain ⟨hc, rfl⟩ := h
  simp only [Bool.and_eq_true] at hc
  exact hc.1.2

theorem address?_ne_nil {prev : Option Char} {t url : Text} (h : address? prev t = some url) :
    url ≠ [] := by
  rintro rfl
  have hscheme := hasScheme_of_address? h
  simp [Address.hasScheme, cut?, after?] at hscheme

theorem delimiter?_isPrefix {t : Text} {s : Style} (h : delimiter? t = some s) :
    s.delimiter <+: t := by
  have hs := List.find?_some h
  obtain ⟨r, hr⟩ := Option.isSome_iff_exists.1 hs
  exact ⟨r, (after?_eq_some_iff.1 hr).symm⟩

theorem first_source_ne_nil (prev : Option Char) (mono : Bool) (c : Char) (t : Text) :
    (first prev mono c t).source ≠ [] := by
  unfold first
  split
  · split <;> simp
  split
  · split <;> simp
  split
  · simp
  split
  · next h => exact address?_ne_nil h
  split
  · next s _ => cases s <;> simp [Style.delimiter]
  · simp

/-- A piece's source begins the text it was read from. -/
theorem first_source_isPrefix (prev : Option Char) (mono : Bool) (c : Char) (t : Text) :
    (first prev mono c t).source <+: c :: t := by
  unfold first
  split
  · split <;> simp
  split
  · split <;> simp
  split
  · next h => exact ⟨_, (bracketed?_eq h).symm⟩
  split
  · next h => exact address?_isPrefix h
  split
  · next h => exact delimiter?_isPrefix h
  · simp

/-- The pieces of a text after the character `prev`. -/
def all (prev : Option Char) (mono : Bool) : Text → List Piece
  | [] => []
  | c :: t =>
    let p := first prev mono c t
    p :: all p.source.getLast? (flips mono p.token) ((c :: t).drop p.source.length)
termination_by t => t.length
decreasing_by
  have := List.length_pos_iff.2 (first_source_ne_nil prev mono c t)
  simp only [List.length_drop, List.length_cons]
  omega

end Piece

end MarkupBridge.Wiki
