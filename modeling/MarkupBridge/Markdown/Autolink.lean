import MarkupBridge.Markdown.Character
import MarkupBridge.Markdown.Node

namespace MarkupBridge.Markdown
open Text

namespace Node

def toUrl (url text : Text) : Node := .link ⟨url, none⟩ [.text text]

end Node

namespace Autolink

def isSchemeChar (c : Char) : Bool := c.isAlphanum || c == '+' || c == '-' || c == '.'

/-- The length of an absolute address that a closing bracket ends. -/
def url? (t : Text) : Option Nat :=
  let scheme := t.takeWhile isSchemeChar
  let body (t : Text) := t.takeWhile fun c => 0x20 < c.toNat && c != '<' && c != '>' && c != '\x7F'
  match t.dropWhile isSchemeChar with
  | ':' :: rest =>
    if scheme.head?.any Char.isAlpha && 2 ≤ scheme.length && scheme.length ≤ 32
        && (rest.drop (body rest).length).head? = some '>'
    then some (scheme.length + 1 + (body rest).length) else none
  | _ => none

def isMailChar (c : Char) : Bool :=
  c.isAlphanum || ".#$%&'*+-/=?^_\x60\x7b|\x7d~".toList.contains c

/-- A part of a host's name between two dots. -/
def isHostLabel (t : Text) : Bool :=
  t.head?.any Char.isAlphanum && t.getLast?.any Char.isAlphanum && t.length ≤ 63

/-- The length of a mail address that a closing bracket ends. -/
def mail? (t : Text) : Option Nat :=
  let name := t.takeWhile isMailChar
  let hostOf (t : Text) := t.takeWhile fun c => c.isAlphanum || c == '-' || c == '.'
  match t.dropWhile isMailChar with
  | '@' :: rest =>
    let host := hostOf rest
    if !name.isEmpty && (split '.' host).all isHostLabel
        && (rest.drop host.length).head? = some '>'
    then some (name.length + 1 + host.length) else none
  | _ => none

/-- The link whose `<` comes before `t`, and how far it goes beyond that. -/
def bracketed? (t : Text) : Option (Node × Nat) :=
  match url? t, mail? t with
  | some n, _ => some (.toUrl (t.take n) (t.take n), n + 1)
  | none, some n => some (.toUrl ("mailto:".toList ++ t.take n) (t.take n), n + 1)
  | none, none => none

/-- Marks that end an address if only such marks stand between them and a blank. -/
def isTrailing (c : Char) : Bool := "!\"')*,.:;?_~".toList.contains c

/-- Whether `t` holds nothing but trailing marks up to a blank or an opening tag. A reference of
letters trails as a whole; a bracket does unless more of a link may follow it. Behind `t` stands
`right`. -/
def trails (right : Option Char) : Text → Bool
  | [] => right.all isBlank
  | '&' :: t => reference false t
  | ']' :: t => bracket t
  | c :: t => if isTrailing c then trails right t else c == '<' || isBlank c
where
  reference (seen : Bool) : Text → Bool
    | [] => false
    | c :: t => if c.isAlpha then reference true t else seen && c == ';' && trails right t
  bracket : Text → Bool
    | [] => true
    | '&' :: t => reference false t
    | ']' :: t => bracket t
    | c :: t =>
      if isPad c || isLineEnd c || c == '(' || c == '[' then true
      else if isTrailing c then trails right t else c == '<' || isBlank c

/-- The length of a host's name. Its last two parts hold no underscore; `last` and `before` say
whether the last part so far and the one before it do. -/
def host? (right : Option Char) (seen last before : Bool) (n : Nat) : Text → Option Nat
  | [] => done
  | c :: t =>
    if c = '.' || c = '_' then
      if trails right (c :: t) then done
      else if c = '_' then host? right seen true before (n + 1) t
      else host? right seen false last (n + 1) t
    else if c = '-' then host? right seen last before (n + 1) t
    else if CharClass.of (some c) = .other then host? right true last before (n + 1) t
    else done
where
  done : Option Nat := if seen && !last && !before then some n else none

/-- The length of what follows the host, in which `opened` parentheses were opened and `closed` ones
closed. One more may be closed while fewer are. -/
def path (right : Option Char) (opened closed : Nat) : Text → Nat
  | [] => 0
  | c :: t =>
    if c = '(' then path right (opened + 1) closed t + 1
    else if c = ')' && closed < opened then path right opened (closed + 1) t + 1
    else if (isTrailing c || c == '&' || c == '<' || c == ']') && trails right (c :: t) then 0
    else if isBlank c then 0
    else path right opened (if c = ')' then closed + 1 else closed) t + 1

/-- The length of a host and what follows it. -/
def location? (right : Option Char) (t : Text) : Option Nat :=
  (host? right false false false 0 t).map fun n => n + path right 0 0 (t.drop n)

/-- What follows a scheme and its two slashes, one if any letter was `spent`. -/
def afterScheme? (spent : Nat) (t : Text) : Option Text :=
  let scheme := t.takeWhile Char.isAlpha
  if scheme.length ≤ 5 && ["http", "https"].contains (String.ofList (lowerAscii scheme)) then
    after? (if spent = 0 then [':', '/', '/'] else [':', '/']) (t.drop scheme.length)
  else none

/-- Whether a text may begin with `www.` after `previous`. -/
def mayBeHost (previous : Option Char) : Bool :=
  previous.all fun c => isPad c || isLineEnd c || "(*_[]~".toList.contains c

/-- The link that a text begins with after `previous`, and its length. Of the letters that announce
it, `spent` may be missing. -/
def bare? (spent : Nat) (previous right : Option Char) (t : Text) : Option (Node × Nat) :=
  match afterScheme? spent t with
  | some rest => do
    guard (!previous.any Char.isAlpha)
    let c ← rest.head?
    guard (!isBlank c && !isControl c && c != '\x00')
    let n := t.length - rest.length + (← location? right rest)
    return (.toUrl (t.take n) (t.take n), n)
  | none => do
    let letters := t.takeWhile fun c => c == 'w' || c == 'W'
    guard (mayBeHost previous && !letters.isEmpty && letters.length + spent = 3)
    let rest ← after? ['.'] (t.drop letters.length)
    guard (!rest.isEmpty)
    let n ← location? right t
    return (.toUrl ("http://".toList ++ t.take n) (t.take n), n)

/-- Whether an attempt to read an address uses up what was spent. -/
def spends (previous : Option Char) (t : Text) : Bool :=
  match t with
  | [] => false
  | c :: _ =>
    if c = 'w' || c = 'W' then mayBeHost previous
    else !previous.any Char.isAlpha && (schemeEnds t)
where
  schemeEnds (t : Text) : Bool :=
    let scheme := t.takeWhile Char.isAlpha
    ["http", "https"].contains (String.ofList (lowerAscii scheme))
      && (t.drop scheme.length).head? = some ':'

def isBareMailChar (c : Char) : Bool :=
  c.isAlphanum || c == '+' || c == '-' || c == '.' || c == '_'

/-- The length of the host behind an at sign: it has a dot, and ends in a letter. -/
def mailHost? (slashes dotted : Bool) (n : Nat) (last : Option Char) : Text → Option Nat
  | [] => done
  | c :: t =>
    if c.isAlphanum || c == '-' || c == '_' || (slashes && c == '/') then
      mailHost? slashes dotted (n + 1) (some c) t
    else if c = '.' && t.head?.any Char.isAlphanum then mailHost? slashes true (n + 1) (some c) t
    else done
where
  done : Option Nat := if dotted && last.any fun c => c.isAlpha || c == '.' then some n else none

/-- The scheme in front of a mail address, whose text before it is reversed. -/
def mailScheme? (before : Text) : Option Text :=
  match before with
  | ':' :: r =>
    let scheme := (r.takeWhile Char.isAlphanum).reverse
    if ["mailto", "xmpp"].contains (String.ofList (lowerAscii scheme)) then some scheme else none
  | _ => none

/-- The mail address around an at sign, with the text in front of it, reversed, and its length
behind the sign. -/
def mailAround? (before t : Text) : Option (Text × Node × Nat) := do
  let name := (before.takeWhile isBareMailChar).reverse
  let before := before.dropWhile isBareMailChar
  guard (!name.isEmpty && before.head? ≠ some '/')
  let scheme := mailScheme? before
  let n ← mailHost? (scheme.map lowerAscii = some "xmpp".toList) false 0 none t
  let address := name ++ '@' :: t.take n
  match scheme with
  | some scheme =>
    let address := scheme ++ ':' :: address
    return (before.drop (scheme.length + 1), .toUrl address address, n)
  | none => return (before, .toUrl ("mailto:".toList ++ address) address, n)

/-- A text in which mail addresses are links. `before` is reversed; the first `skip` characters
belong to the address just read. -/
def mailsAfter (before : Text) (skip : Nat) : Text → List Node
  | [] => textOf before
  | c :: t =>
    match skip with
    | skip + 1 => mailsAfter before skip t
    | 0 =>
      if c = '@' then
        match mailAround? before t with
        | some (before, link, n) => textOf before ++ link :: mailsAfter [] n t
        | none => mailsAfter (c :: before) 0 t
      else mailsAfter (c :: before) 0 t
where
  textOf (before : Text) : List Node := if before.isEmpty then [] else [.text before.reverse]

def mails (t : Text) : List Node := mailsAfter [] 0 t

end Autolink

end MarkupBridge.Markdown
