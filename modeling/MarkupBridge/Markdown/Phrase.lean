import MarkupBridge.Markdown.Dialect
import MarkupBridge.Markdown.Piece
import MarkupBridge.Markdown.Reference
import MarkupBridge.Markdown.Tag

namespace MarkupBridge.Markdown
open Text

/-- What the rest of the document says about a text: the labels that have a definition, those that
name footnotes, and whether a table's cell holds the text. -/
structure Scope where
  dialect : Dialect
  defined : List Text
  footnotes : List Text
  inCell : Bool
deriving DecidableEq, Repr

inductive BracketKind where
  | link | image | footnote
deriving DecidableEq, Repr

/-- The mark itself, which is text where no link comes of it. -/
def BracketKind.text : BracketKind → Text
  | .link => ['[']
  | .image => ['!', '[']
  | .footnote => ['[', '^']

/-- A bracket that may open a link. `outer` holds the pieces before it, the last first, and `inside`
the text after it, the next lines of which have the given margins; a bracket around a link is not
`live`. -/
structure Bracket where
  kind : BracketKind
  live : Bool
  outer : List Piece
  inside : Text
  margins : List Margin

namespace Bracket

/-- The pieces with those before a bracket that is text after all. -/
def spill (b : Bracket) (pieces : List Piece) : List Piece :=
  pieces ++ (b.kind.text.map Piece.char).reverse ++ b.outer

/-- No link goes around another. -/
def silence (b : Bracket) : Bracket := if b.kind = .image then b else { b with live := false }

end Bracket

/-- A text read so far: its pieces since the last open bracket, the last first, and the open
brackets. `margins` are those of the lines to come; the next `skip` characters are part of what was
read. Letters of a mark of character data that was not finished are `spent`: the next thing that
counts its characters counts from them. -/
structure Phrase where
  pieces : List Piece
  brackets : List Bracket
  previous : Option Char
  margins : List Margin
  spent : Nat
  skip : Nat

/-- What a bracketed text turns out to be. -/
inductive Bracketed where
  | resource (r : Resource)
  | reference (kind : ReferenceKind) (label : Option Label)
  | footnote

namespace Phrase

def start (previous : Option Char) (margins : List Margin) : Phrase :=
  ⟨[], [], previous, margins, 0, 0⟩

/-- Adds a piece that goes `n` characters beyond the one at hand. -/
def add (f : Phrase) (p : Piece) (n : Nat) : Phrase := { f with pieces := p :: f.pieces, skip := n }

def addChars (f : Phrase) (t : Text) : Phrase :=
  { f with pieces := (t.map Piece.char).reverse ++ f.pieces, skip := t.length - 1 }

/-- Opens a bracket whose mark goes `n` characters beyond the one at hand. -/
def openBracket (f : Phrase) (kind : BracketKind) (inside : Text) (n : Nat) : Phrase :=
  { f with
    pieces := []
    brackets := ⟨kind, true, f.pieces, inside, f.margins⟩ :: f.brackets
    skip := n }

/-- The end of a text: brackets that are still open are text. -/
def finish (f : Phrase) : List Piece :=
  (f.brackets.foldl (fun pieces b => b.spill pieces) f.pieces).reverse

/-- What a bracketed text is that `t` follows, and how far that goes into `t`. -/
def bracketed? (s : Scope) (f : Phrase) (kind : BracketKind) (raw t : Text) :
    Option (Bracketed × Nat) :=
  if kind = .footnote && s.footnotes.contains (Label.normalize raw) then some (.footnote, 0)
  else
    let raw := if kind = .footnote then '^' :: raw else raw
    let defined := s.defined.contains (Label.normalize raw)
    let short := if defined then some (Bracketed.reference .shortcut none, 0) else none
    match t with
    | '(' :: rest =>
      match Resource.read? f.spent f.margins rest with
      | some (r, rest) => some (.resource r, t.length - rest.length)
      | none => short
    | '[' :: rest =>
      let label? := (Label.readRaw? rest).map fun (raw, rest) => (Label.ofRaw f.margins raw, rest)
      match label?.filter fun (l, _) => s.defined.contains l.identifier with
      | some (label, rest) => some (.reference .full (some label), t.length - rest.length)
      | none =>
        if defined && rest.head? = some ']' then some (.reference .collapsed none, 2) else none
    | _ => short

/-- What is spent after a bracketed text has been looked at that `t` follows: a label counts its
characters, and so does a destination without brackets. -/
def spentAfter (spent : Nat) : Text → Nat
  | '[' :: _ => 0
  | '(' :: t =>
    match skipBlanks t with
    | [] => spent
    | c :: _ => if c = '<' || c = ')' || isControl c then spent else 0
  | _ => spent

/-- The node that a bracketed text makes. A label that is not written twice is the text itself. -/
def bracketNode (kind : BracketKind) (raw : Text) (children : List Node) : Bracketed → Node
  | .footnote => .footnoteReference ⟨Label.normalize raw, some (Node.plainAll children)⟩
  | .resource r =>
    if kind = .image then .image r (Node.plainAll children) else .link r children
  | .reference how label? =>
    let raw := if kind = .footnote then '^' :: raw else raw
    let plain := Node.plainAll children
    let label := label?.getD ⟨Label.normalize raw, some plain⟩
    if kind = .image then .imageReference how label plain else .linkReference how label children

/-- The caret of a footnote that turned out to be a link. -/
def caret : BracketKind → Bracketed → List Piece
  | .footnote, .resource _ | .footnote, .reference .. => [.char '^']
  | _, _ => []

/-- A closing bracket that `t` follows. -/
def closeBracket (s : Scope) (f : Phrase) (t : Text) : Phrase :=
  match f.brackets with
  | [] => f.addChars [']']
  | b :: bs =>
    let literal : Phrase := { f with pieces := b.spill f.pieces, brackets := bs }
    let raw := Margin.weave b.margins (b.inside.take (b.inside.length - (t.length + 1)))
    if b.live then
      let found := bracketed? s f b.kind raw t
      let used := match found with
        | some (.footnote, _) => f.spent
        | _ => spentAfter f.spent t
      match found with
      | none => { literal with spent := used }.addChars [']']
      | some (what, n) =>
        let inner := caret b.kind what ++ f.pieces.reverse
        let children := Piece.resolve false inner
        { f with
          pieces := .node (bracketNode b.kind raw children what) :: b.outer
          brackets := if b.kind = .image then bs else bs.map Bracket.silence
          spent := used
          skip := n }
    else literal.addChars [']']

/-- The length of the text before the first run of exactly `size` marks. Of the `n` characters so
far the last `run` are marks. -/
def rawLength? (mark : Char) (size n run : Nat) : Text → Option Nat
  | [] => if run = size then some (n - run) else none
  | c :: t =>
    if c = mark then rawLength? mark size (n + 1) (run + 1) t
    else if run = size then some (n - run)
    else rawLength? mark size (n + 1) 0 t

def unescapePipes : Text → Text
  | '\\' :: '|' :: t => '|' :: unescapePipes t
  | c :: t => c :: unescapePipes t
  | [] => []

/-- The value between two runs of marks: a space on both sides does not count, unless there is
nothing else. -/
def rawValue (s : Scope) (t : Text) : Text :=
  let t := if s.inCell then unescapePipes t else t
  if 2 < t.length && t.head? = some ' ' && t.getLast? = some ' ' && t.any (· != ' ') then
    t.tail.dropLast
  else t

/-- A run of `size` marks that `t` follows. -/
def addRaw (s : Scope) (f : Phrase) (mark : Char) (size : Nat) (t : Text) : Phrase :=
  let counted := size + f.spent
  let f := { f with spent := 0 }
  match rawLength? mark counted 0 0 t with
  | some n =>
    let value := rawValue s (t.take n)
    let node := if mark = '$' then .inlineMath value else .inlineCode value
    f.add (.node node) (size + n + counted - 1)
  | none => f.addChars (List.replicate size mark)

/-- Whether the next line begins inside a tab. -/
def entersTab (f : Phrase) : Bool := f.margins.head?.any (·.inTab)

def addEscape (f : Phrase) (t : Text) : Phrase :=
  match t with
  | [] => f.addChars ['\\']
  | c :: _ =>
    if isAsciiPunctuation c then f.add (.text [c]) 1
    else match spanLineEnd? t with
      | some (ending, _) =>
        (f.add (.node .lineBreak) 0).add (.lineEnd [] f.entersTab) ending.length
      | none => f.addChars ['\\']

/-- Whether an attempt at an address between angle brackets uses up what was spent. -/
def spendsAddress (t : Text) : Bool :=
  match t with
  | a :: b :: _ =>
    (a.isAlpha && Autolink.isSchemeChar b) ||
      match t.dropWhile Autolink.isMailChar with
      | '@' :: c :: _ => a != '@' && c.isAlphanum
      | _ => false
  | _ => false

/-- What is spent after an attempt at raw markup. -/
def spentOnMarkup (spent : Nat) : Text → Nat
  | '!' :: '[' :: t =>
    let matched := common (Tag.dataMark.drop spent) t
    if spent + matched < Tag.dataMark.length then spent + matched else 0
  | _ => spent
where
  common : Text → Text → Nat
    | a :: as, b :: bs => if a = b then common as bs + 1 else 0
    | _, _ => 0

def addAngle (s : Scope) (f : Phrase) (t : Text) : Phrase :=
  let f := if spendsAddress t then { f with spent := 0 } else f
  match Autolink.bracketed? t with
  | some (n, length) => f.add (.node n) length
  | none =>
    if s.dialect.rawHtml then
      match Tag.skip? f.spent t, { f with spent := spentOnMarkup f.spent t } with
      | some rest, f =>
        let length := t.length - rest.length
        f.add (.node (.html (Tag.tightened ('<' :: t.take length)))) length
      | none, f => f.addChars ['<']
    else f.addChars ['<']

def isRunMark (d : Dialect) (c : Char) : Bool := c == '*' || c == '_' || (d.gfm && c == '~')

def isRawMark (d : Dialect) (c : Char) : Bool := c == '\x60' || (d.math && c == '$')

/-- A run of marks: `left` and `right` are the neighbours of the whole text. -/
def addRun (d : Dialect) (left right : Option Char) (f : Phrase) (c : Char) (t : Text) : Phrase :=
  let size := (t.takeWhile (· == c)).length + 1
  let rest := t.dropWhile (· == c)
  f.add (.run (.between d.gfm c size (f.previous <|> left) (rest.head? <|> right))) (size - 1)

/-- A bare address, or a character that begins none. -/
def addLetter (d : Dialect) (right : Option Char) (f : Phrase) (c : Char) (t : Text) : Phrase :=
  if d.gfm then
    let g := if Autolink.spends f.previous (c :: t) then { f with spent := 0 } else f
    match Autolink.bare? f.spent f.previous right (c :: t) with
    | some (n, length) => g.add (.node n) (length - 1)
    | none => g.addChars [c]
  else f.addChars [c]

/-- A reference, or an ampersand that begins none. -/
def addReference (f : Phrase) (t : Text) : Phrase :=
  let g := { f with spent := 0 }
  match Entity.read? f.spent t with
  | some (cs, rest) => g.add (.text cs) (t.length - rest.length)
  | none => g.addChars ['&']

/-- Takes one more character, `c`, that `t` follows. -/
def next (s : Scope) (left right : Option Char) (f : Phrase) (c : Char) (t : Text) : Phrase :=
  if isLineEnd c then
    match spanLineEnd? (c :: t) with
    | some (ending, _) => f.add (.lineEnd ending f.entersTab) (ending.length - 1)
    | none => f
  else if isRunMark s.dialect c then f.addRun s.dialect left right c t
  else if isRawMark s.dialect c then
    f.addRaw s c ((t.takeWhile (· == c)).length + 1) (t.dropWhile (· == c))
  else match c with
    | '!' =>
      match t with
      | '[' :: rest =>
        if s.dialect.gfm && rest.head? = some '^' then f.addChars ['!']
        else f.openBracket .image rest 1
      | _ => f.addChars ['!']
    | '[' =>
      match t with
      | '^' :: rest =>
        if s.dialect.gfm then f.openBracket .footnote rest 1 else f.openBracket .link t 0
      | _ => f.openBracket .link t 0
    | ']' => f.closeBracket s t
    | '&' => f.addReference t
    | '\\' => f.addEscape t
    | '<' => f.addAngle s t
    | 'h' | 'H' | 'w' | 'W' => f.addLetter s.dialect right c t
    | _ => f.addChars [c]

/-- Goes beyond the character `c`, which `t` follows. At the end of a line that is where the margin of
the next one ends. -/
def pass (f : Phrase) (c : Char) (t : Text) : Phrase :=
  if c = '\n' || (c = '\r' && t.head? ≠ some '\n') then
    { f with
      previous := (f.margins.head?.bind (·.marks.getLast?)).or (some c)
      margins := f.margins.tail }
  else { f with previous := some c }

def readAll (s : Scope) (left right : Option Char) (f : Phrase) : Text → Phrase
  | [] => f
  | c :: t =>
    match f.skip with
    | n + 1 => readAll s left right ({ f with skip := n }.pass c t) t
    | 0 => readAll s left right ((f.next s left right c t).pass c t) t

end Phrase

namespace Scope

/-- The nodes of a text that begins in the middle of a line, after `previous`. -/
def readAfter (s : Scope) (previous : Char) (margins : List Margin) (t : Text) : List Node :=
  Piece.resolveWhole s.dialect.gfm .inside
    ((Phrase.start (some previous) margins).readAll s none none t).finish

/-- The nodes of the text of a block. -/
def read (s : Scope) (p : Passage) : List Node :=
  Piece.resolveWhole s.dialect.gfm (.line p.margin.inTab)
    ((Phrase.start none p.margins.tail).readAll s p.margin.marks.getLast? none p.text).finish

/-- The nodes of the text in a cell of a table. -/
def readCell (s : Scope) (left right : Option Char) (t : Text) : List Node :=
  Piece.resolveWhole s.dialect.gfm (.line false)
    ((Phrase.start none []).readAll { s with inCell := true } left right t).finish

end Scope

end MarkupBridge.Markdown
