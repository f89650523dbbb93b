import MarkupBridge.Markdown.Container
import MarkupBridge.Markdown.Table
import MarkupBridge.Markdown.Tag

namespace MarkupBridge.Markdown
open Text

/-- The line that opens a block of code or a formula. -/
structure Fence where
  mark : Char
  size : Nat
  indent : Nat
  info : Text
deriving DecidableEq, Repr

namespace Fence

/-- The fewest marks of a fence. -/
def least? (d : Dialect) (mark : Char) : Option Nat :=
  if mark = '\x60' || mark = '~' then some 3
  else if mark = '$' && d.math then some 2
  else none

def read? (d : Dialect) (c : Cursor) : Option Fence :=
  let t := c.skipAll.rest
  match t with
  | [] => none
  | mark :: _ => do
    let size := (t.takeWhile (· == mark)).length
    let info := (t.dropWhile (· == mark)).dropWhile isPad
    let least ← least? d mark
    if size < least || (mark != '~' && info.contains mark) then none
    else return ⟨mark, size, c.indent, info⟩

/-- Whether a last line is part of a fence and no more. -/
def isPending (d : Dialect) (t : Text) : Bool :=
  match t with
  | [] => false
  | mark :: _ => (least? d mark).any (t.length < ·) && t.all (· == mark)

/-- Whether a line ends what the fence opened. -/
def closes (f : Fence) (t : Text) : Bool :=
  f.size ≤ (t.takeWhile (· == f.mark)).length && (t.dropWhile (· == f.mark)).all isPad

def word? (t : Text) : Option Text := (nonempty? t).map (Escape.plain [])

/-- The block with the fence around `value`. The first word after the fence of a block of code names
its language. -/
def block (f : Fence) (value : Text) : Block :=
  if f.mark = '$' then .math (word? f.info) value
  else
    .code (word? (f.info.takeWhile (!isPad ·)))
      (word? ((f.info.dropWhile (!isPad ·)).dropWhile isPad)) value

end Fence

namespace Heading

/-- The text without the number signs that stand alone at its end. -/
def dropSigns : Nat → Text → Text
  | 0, r => r
  | n + 1, r =>
    let r := r.dropWhile isPad
    match r, r.dropWhile (· == '#') with
    | '#' :: _, [] => []
    | '#' :: _, c :: t => if isPad c then dropSigns n (c :: t) else r
    | _, _ => r

/-- The text of a heading that stands after its number signs, in a line. -/
def passage (body t : Text) : Passage :=
  let t := t.dropWhile fun c => isPad c || c == '#'
  .ofLine ⟨body.take (body.length - t.length), false⟩ (dropSigns t.length t.reverse).reverse

/-- The depth and text of a line that is a heading by itself, read where its indentation ends. -/
def read? (body t : Text) : Option (Nat × Passage) :=
  let depth := (t.takeWhile (· == '#')).length
  let rest := t.dropWhile (· == '#')
  if 1 ≤ depth && depth ≤ 6 && rest.head?.all isPad then some (depth, passage body rest) else none

/-- The depth of the heading that a line of equal marks makes of the text before it. -/
def underline? (t : Text) : Option Nat :=
  match t with
  | [] => none
  | m :: _ =>
    if (m = '=' || m = '-') && (t.dropWhile (· == m)).all isPad then
      some (if m = '=' then 1 else 2)
    else none

end Heading

/-- What a line is, once the containers around it are known. Text may be the head of a table. A
`fragment` is text of a last line that is cut short before it becomes anything else. -/
inductive LineKind where
  | delimiter (align : List (Option Align))
  | blank
  | indented
  | fence (f : Fence)
  | html (k : HtmlKind)
  | heading (depth : Nat) (text : Passage)
  | underline (depth : Nat)
  | rule
  | row
  | text (head : Option Table.Head)
  | fragment

/-- What the lines before a line let it be. The line before may be the head of a table, may be
underlined, or may be a row of a table; it may be text that not every block interrupts. A `lazy` line
has left the containers of the line before. A `spare` pipe ended a line that no table came of. -/
structure Surrounding where
  head : Option Table.Head
  underlines : Bool
  inTable : Bool
  interrupts : Bool
  lazy : Bool
  spare : Bool

namespace LineKind

/-- Marks of blocks. A line that begins with one of them, or with the first letter of certain words, is
no row of a table. -/
def isReserved (c : Char) : Bool := "#$\x60~*_<ei\x7b".toList.contains c

def isSettled (c : Cursor) : Bool := c.head?.any isReserved

def delimiter? (d : Dialect) (s : Surrounding) (c : Cursor) : Option LineKind := do
  guard (d.admits c.indent)
  return .delimiter (← Table.begins? (← s.head) c.rest)

def html? (d : Dialect) (s : Surrounding) (t : Text) : Option LineKind :=
  match t with
  | '<' :: t =>
    if d.rawHtml then (HtmlKind.read? (s.interrupts && !s.lazy) s.spare t).map .html else none
  | _ => none

def head? (d : Dialect) (s : Surrounding) (c : Cursor) : Option Table.Head :=
  if d.gfm && d.admits c.indent && !isSettled c && !s.inTable then
    Table.head? s.spare c.skipAll.rest
  else none

/-- Whether the text of a last line begins a block that it does not finish. -/
def isFragment (d : Dialect) (s : Surrounding) (c : Cursor) : Bool :=
  let t := c.skipAll.rest
  d.admits c.indent && (Fence.isPending d t || isRulePending t ||
    match t with
    | '<' :: t => d.rawHtml && HtmlKind.isPending s.spare t
    | _ => false)

/-- The kind of a line that is text from `c`, if it is none of another block. -/
def ofText (d : Dialect) (s : Surrounding) (ending : Text) (c : Cursor) : LineKind :=
  if !ending.isEmpty then .text (head? d s c)
  else if isFragment d s c then .fragment
  else .text none

/-- The kind of a line from `c`. -/
def read (d : Dialect) (s : Surrounding) (line : Line) (c : Cursor) : LineKind :=
  let t := c.skipAll.rest
  let near (k : Option LineKind) : Option LineKind := if d.admits c.indent then k else none
  let kind? :=
    delimiter? d s c
    <|> (if c.isBlank then some .blank else none)
    <|> (if d.codeIndented && !s.interrupts && 4 ≤ c.indent then some .indented else none)
    <|> near ((Fence.read? d c).map .fence)
    <|> near (html? d s t)
    <|> near ((Heading.read? line.body t).map fun (depth, t) => .heading depth t)
    <|> near (if s.underlines then (Heading.underline? t).map .underline else none)
    <|> near (if isRule t then some .rule else none)
    <|> (if s.inTable && !s.lazy && !isSettled c then some .row else none)
  kind?.getD (ofText d s line.ending c)

/-- Whether a spare pipe is still spare after a line from `c`: neither a tag nor the head of a table
has used it. -/
def sparesPipe (d : Dialect) (s : Surrounding) (c : Cursor) (k : LineKind) : Bool :=
  let tagged := d.admits c.indent && d.rawHtml &&
    match c.skipAll.rest with
    | '<' :: t => HtmlKind.beginsTag t
    | _ => false
  match k with
  | .delimiter _ => false
  | .blank | .indented | .fence _ => true
  | .text _ | .fragment =>
    !tagged && !(d.gfm && d.admits c.indent && !isSettled c && !s.inTable)
  | _ => !tagged

end LineKind

end MarkupBridge.Markdown
