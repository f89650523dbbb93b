import MarkupBridge.Markdown.Character
import MarkupBridge.Markdown.EntityTable

namespace MarkupBridge.Markdown
open Text

namespace Entity

def digit? (base : Nat) (c : Char) : Option Nat :=
  let value :=
    if '0' ≤ c && c ≤ '9' then c.toNat - 48
    else if 'a' ≤ c && c ≤ 'f' then c.toNat - 87
    else if 'A' ≤ c && c ≤ 'F' then c.toNat - 55
    else base
  if value < base then some value else none

def number (base : Nat) (t : Text) : Nat :=
  t.foldl (fun n c => n * base + (digit? base c).getD 0) 0

def readEntry? (entry : Text) : Option (Text × Text) :=
  (cutChar? '=' entry).map fun (name, codes) =>
    (name, (split '+' codes).map fun code => Char.ofNat (number 16 code))

/-- Every name with the characters it stands for. -/
def named : List (Text × Text) :=
  entityLines.flatMap fun line => (split ' ' line.toList).filterMap readEntry?

/-- Control characters other than the blank ones have no reference. -/
def isUnreferable (n : Nat) : Bool :=
  n ≤ 8 || n == 0xB || (0xE ≤ n && n ≤ 0x1F) || (0x7F ≤ n && n ≤ 0x9F)

def ofCode (n : Nat) : Char :=
  if isUnreferable n || !Nat.isValidChar n then '\uFFFD' else Char.ofNat n

/-- A body of one to `limit` characters, ended by a semicolon. -/
def body? (p : Char → Bool) (limit : Nat) (t : Text) : Option (Text × Text) :=
  match t.dropWhile p with
  | ';' :: rest =>
    let body := t.takeWhile p
    if body.isEmpty || limit < body.length then none else some (body, rest)
  | _ => none

/-- The characters that a reference stands for, read after its ampersand, and what follows it. A
number has `spent` digits less to use than it might, and a name has all or none. -/
def read? (spent : Nat) : Text → Option (Text × Text)
  | '#' :: 'x' :: t | '#' :: 'X' :: t =>
    (body? (fun c => (digit? 16 c).isSome) (6 - spent) t).map fun (b, r) =>
      ([ofCode (number 16 b)], r)
  | '#' :: t =>
    (body? Char.isDigit (7 - spent) t).map fun (b, r) => ([ofCode (number 10 b)], r)
  | t =>
    if spent = 0 then do
      let (b, r) ← body? Char.isAlphanum 31 t
      return (← named.lookup b, r)
    else none

theorem body?_length {p : Char → Bool} {limit : Nat} {t b r : Text}
    (h : body? p limit t = some (b, r)) : r.length < t.length := by
  unfold body? at h
  split at h
  · next rest hd =>
    have := length_dropWhile_le p t
    rw [hd] at this
    simp only at h
    split at h <;> cases h
    simp at this; omega
  · cases h

theorem read?_length {n : Nat} {t b r : Text} (h : read? n t = some (b, r)) :
    r.length < t.length := by
  unfold read? at h
  split at h
  · obtain ⟨⟨b', r'⟩, hb, he⟩ := Option.map_eq_some_iff.1 h
    cases he
    have := body?_length hb
    simp; omega
  · obtain ⟨⟨b', r'⟩, hb, he⟩ := Option.map_eq_some_iff.1 h
    cases he
    have := body?_length hb
    simp; omega
  · obtain ⟨⟨b', r'⟩, hb, he⟩ := Option.map_eq_some_iff.1 h
    cases he
    have := body?_length hb
    simp; omega
  · split at h
    · cases hb : body? Char.isAlphanum 31 t with
      | none => simp [hb] at h
      | some v =>
        obtain ⟨b', r'⟩ := v
        cases hl : named.lookup b' with
        | none => simp [hb, hl] at h
        | some w => simp [hb, hl] at h; exact h.2 ▸ body?_length hb
    · cases h

end Entity

end MarkupBridge.Markdown
