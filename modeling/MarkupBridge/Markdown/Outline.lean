import MarkupBridge.Markdown.LineKind
import MarkupBridge.Markdown.Part

namespace MarkupBridge.Markdown
open Text

/-- A block without blocks in it, some of whose lines are yet to come. -/
inductive Leaf where
  | none
  /-- The last line was an underline; `text` holds it if there was nothing to underline. -/
  | underlined (text : Option Passage)
  /-- Lines of text, the last first. `front` is a line before them that is no definition. -/
  | paragraph (front : Option Passage) (lines : List Passage)
  /-- The lines after a fence; `ending` ends the last of them. -/
  | fenced (f : Fence) (value ending : Text)
  /-- Indented lines, which more may follow unless `single`; `ending` ends the last of them, `blanks`
  are the line endings after it. -/
  | indented (single : Bool) (value ending : Text) (blanks : List Text)
  | html (k : HtmlKind) (value ending : Text)
  /-- The rows of a table, the last first. -/
  | table (align : List (Option Align)) (rows : List (List Cell))

namespace Leaf

def underlines : Leaf → Bool
  | paragraph .. | underlined _ => true
  | _ => false

def isTable : Leaf → Bool
  | table .. => true
  | _ => false

/-- Whether the line endings inside the leaf are its own. -/
def ownsEnding : Leaf → Bool
  | fenced .. => true
  | html k .. => !k.endsAtBlank
  | _ => false

/-- A text without one line ending at each end. -/
def chop (t : Text) : Text := chopLineEnd ((afterLineEnd? t).getD t)

/-- The definitions in front of lines of text, and the text they leave. -/
def content (front : Option Passage) (lines : List Passage) :
    List Block × Option Passage × Passage :=
  let (ds, rest) := Definition.takeAll (.join lines.reverse)
  match front, ds with
  | some p, [] => ([], .none, p.append rest)
  | _, _ => (ds.map .definition, front, rest)

def paragraph? (p : Passage) : List Block := if p.isEmpty then [] else [.paragraph p]

/-- The blocks that a leaf amounts to. The last line of one that is not closed has lost its end if it
was `outrun`, left behind by its container. -/
def blocks (outrun : Bool) (l : Leaf) : List Block :=
  match l with
  | none => []
  | underlined p => p.toList.map .paragraph
  | paragraph front lines =>
    let (ds, front, rest) := content front lines
    front.toList.map .paragraph ++ ds ++ paragraph? rest
  | fenced f value ending => [f.block (chop (if outrun then value else value ++ ending))]
  | indented _ value _ _ => [.code .none .none (chopLineEnd value)]
  | html _ value ending => [.html (if l.ownsEnding && !outrun then value ++ ending else value)]
  | table align rows => [.table align rows.reverse]

end Leaf

/-- A container with the parts read in it, the last first. One that is `joined` begins where the item
before it ended. -/
structure Frame where
  container : Container
  joined : Bool
  parts : List Part

namespace Frame

def empty (k : Container) : Frame := ⟨k, false, []⟩

def add (f : Frame) (p : Part) : Frame := { f with parts := p :: f.parts }

/-- Adds the container `f` with what is in it. -/
def addFrame (outer f : Frame) : Frame :=
  let ps := f.parts.reverse
  match f.container with
  | .root => outer
  | .quote => outer.add (.block (.quote (Part.blocks ps)))
  | .item m _ _ => outer.add (.item m f.joined (Part.toItem ps))
  | .footnote label => outer.add (.block (.footnote label (Part.blocks ps)))

end Frame

/-- What the lines so far have come to. The last line was `blank`, or text that not every block
`interrupts`, or `lazy`, outside of containers it might have gone on with; it may be the `head` of a
table. A `spare` pipe ended a line that no table came of. -/
structure Outline where
  frames : List Frame
  leaf : Leaf
  blank : Bool
  interrupts : Bool
  lazy : Bool
  head : Option Table.Head
  spare : Bool

namespace Outline

def start : Outline := ⟨[.empty .root], .none, false, false, false, none, false⟩

def modifyInner (g : Frame → Frame) : List Frame → List Frame
  | [] => []
  | f :: fs => g f :: fs

def addPart (o : Outline) (p : Part) : Outline :=
  { o with frames := modifyInner (·.add p) o.frames }

def add (o : Outline) (b : Block) : Outline := o.addPart (.block b)

def addAll (o : Outline) (bs : List Block) : Outline := bs.foldl add o

/-- Ends the open leaf. Blank lines behind indented code turn out to be no part of it. -/
def closeLeaf (outrun : Bool) (o : Outline) : Outline :=
  let o' := { o.addAll (o.leaf.blocks outrun) with leaf := .none }
  match o.leaf with
  | .indented _ _ _ (_ :: bs) => { bs.foldl (fun o _ => o.addPart .blank) o' with blank := true }
  | _ => o'

def closeFrames : Nat → List Frame → List Frame
  | n + 1, f :: outer :: fs => closeFrames n (outer.addFrame f :: fs)
  | _, fs => fs

/-- Gives the blank line before this one to the innermost container. -/
def settle (o : Outline) : Outline :=
  if o.blank then { o.addPart .blank with blank := false } else o

/-- Ends the open leaf and the `n` innermost containers. -/
def leave (outrun : Bool) (n : Nat) (o : Outline) : Outline :=
  let o := o.closeLeaf outrun
  settle { o with frames := closeFrames n o.frames }

/-- Adds a line to the text before it. An underline with nothing above it is text of the same
paragraph if no container goes on between the two. -/
def addText (o : Outline) (kept : Bool) (p : Passage) : Outline :=
  match o.leaf with
  | .paragraph front lines => { o with leaf := .paragraph front (p :: lines) }
  | .underlined (some front) =>
    if kept then { o.leave false 0 with leaf := .paragraph none [p] }
    else { o with leaf := .paragraph (some front) [p] }
  | _ => { o.leave false 0 with leaf := .paragraph none [p] }

/-- Makes a heading of the text before an underline. -/
def addUnderline (o : Outline) (depth : Nat) (p : Passage) : Outline :=
  match o.leaf with
  | .paragraph front lines =>
    let (ds, front, rest) := Leaf.content front lines
    let o := o.addAll (front.toList.map .paragraph ++ ds)
    if rest.isEmpty then { o with leaf := .underlined (some p) }
    else { o.add (.heading depth rest) with leaf := .underlined none }
  | .underlined (some text) => { o.add (.heading depth text) with leaf := .underlined none }
  | _ => { o.leave false 0 with leaf := .underlined (some p) }

/-- Makes a table's head of the line before its second row. -/
def addDelimiter (o : Outline) (align : List (Option Align)) : Outline :=
  match o.leaf with
  | .paragraph front (line :: lines) =>
    { { o with leaf := .paragraph front lines }.leave false 0 with
      leaf := .table align [Table.cells (chopLineEnd line.text)] }
  | _ => o

def addRow (o : Outline) (t : Text) : Outline :=
  match o.leaf with
  | .table align rows => { o with leaf := .table align (Table.cells t :: rows) }
  | _ => o

def addIndented (o : Outline) (single : Bool) (t ending : Text) : Outline :=
  match o.leaf with
  | .indented false value last blanks =>
    { o with leaf := .indented false (value ++ last ++ blanks.reverse.flatten ++ t) ending [] }
  | _ => { o.leave false 0 with leaf := .indented single t ending [] }

def addBlank (o : Outline) (c : Cursor) (ending : Text) : Outline :=
  match o.leaf with
  | .indented false value last blanks =>
    if 4 ≤ c.indent then o.addIndented false (c.skip 4).rest ending
    else { o with leaf := .indented false value last (ending :: blanks) }
  | _ => { o.leave false 0 with blank := true }

def addHtml (o : Outline) (k : HtmlKind) (value t ending : Text) : Outline :=
  if k.ends t then { o.add (.html value) with leaf := .none }
  else { o with leaf := .html k value ending }

/-- Where a line is read from, and whether containers it goes on with come before that; indented code
on it may be `single`. -/
structure Place where
  line : Line
  cursor : Cursor
  kept : Bool
  single : Bool

namespace Place

def passage (p : Place) : Passage :=
  .ofLine (p.cursor.margin p.line.body) (p.cursor.rest ++ p.line.ending)

end Place

/-- Adds a line of a known kind. -/
def addLine (o : Outline) (p : Place) (kind : LineKind) : Outline :=
  let c := p.cursor
  let ending := p.line.ending
  match kind with
  | .text _ | .fragment => o.addText p.kept p.passage
  | .underline depth => o.addUnderline depth p.passage
  | .delimiter align => o.addDelimiter align
  | .row => o.addRow c.rest
  | .indented => o.addIndented p.single (c.skip 4).rest ending
  | .blank => o.addBlank c ending
  | .fence f => { o.leave false 0 with leaf := .fenced f [] ending }
  | .html k => (o.leave false 0).addHtml k c.rest (c.skipAll.rest.drop 1) ending
  | .heading depth t => (o.leave false 0).add (.heading depth t)
  | .rule => (o.leave false 0).add .rule

/-- Adds a line to a leaf that takes lines as they are. -/
def addRaw? (d : Dialect) (o : Outline) (c : Cursor) (ending : Text) : Option Outline :=
  match o.leaf with
  | .fenced f value last =>
    some (if d.admits c.indent && f.closes c.skipAll.rest then o.leave false 0
      else { o with leaf := .fenced f (value ++ last ++ (c.skip f.indent).rest) ending })
  | .html k value last =>
    some (if k.endsAtBlank && c.isBlank then { o.leave false 0 with blank := true }
      else o.addHtml k (value ++ last ++ c.rest) c.rest ending)
  | _ => none

/-- What an outline makes of a line, and what the line leaves to the next one. -/
def follow (d : Dialect) (o : Outline) (s : Surrounding) (p : Place) (kind : LineKind)
    (inside : Bool) : Outline :=
  let isText := match kind with
    | .text _ | .fragment => true
    | _ => false
  { o.addLine p kind with
    interrupts := isText && inside
    lazy := s.lazy
    head := match kind with
      | .text head => head
      | _ => none
    spare := LineKind.sparesPipe d s p.cursor kind && s.spare }

/-- Whether a pipe of the line before is spare: it might have been a table's, and is `lost` to this
line. -/
def sparesPipe (o : Outline) (lost : Bool) : Bool :=
  match o.head with
  | some head => lost && head.closed
  | none => o.spare

/-- Whether the line before is text when this one comes to be read. -/
def isInterrupted (o : Outline) : Bool := o.interrupts || o.head.isSome

/-- The frames, the outermost first, that a line goes on with, and those it leaves. -/
def keep (d : Dialect) (kept : List Frame) : List Frame → Cursor → List Frame × List Frame × Cursor
  | [], c => (kept, [], c)
  | f :: fs, c =>
    match f.container.continue? d c with
    | some (k, c) => keep d ({ f with container := k } :: kept) fs c
    | none => (kept, f :: fs, c)

/-- The frames of the containers that a line opens. The first is joined to an item before it if a leaf
that owned the end of the line stood between them. -/
def open_ (joined : Bool) (ks : List Container) : List Frame :=
  match ks with
  | [] => []
  | k :: ks => { Frame.empty k with joined := joined } :: ks.map .empty

/-- Whether the last part in the outermost container is an item. -/
def endsInItem (o : Outline) : Bool :=
  match o.frames with
  | [f] => match f.parts with
    | .item .. :: _ => true
    | _ => false
  | _ => false

/-- Adds a line that opens the containers `ks`, after leaving `n`. -/
def addOpening (d : Dialect) (o : Outline) (n : Nat) (ks : List Container) (line : Line)
    (c : Cursor) : Outline :=
  let inside := n == 0
  let s : Surrounding :=
    ⟨none, false, false, inside && o.isInterrupted, false, o.sparesPipe (inside || o.lazy)⟩
  let owned := o.leaf.ownsEnding && !o.lazy
  let o := o.leave o.lazy n
  let frames := open_ (owned && o.endsInItem) ks
  { o with frames := frames.reverse ++ o.frames }.follow d s ⟨line, c, true, true⟩
    (LineKind.read d s line c) true

/-- Adds a line that leaves `n` containers and opens none. Text goes on with a paragraph in them. -/
def addLeaving (d : Dialect) (o : Outline) (n : Nat) (line : Line) (c : Cursor) : Outline :=
  let s : Surrounding :=
    ⟨none, false, o.leaf.isTable, o.isInterrupted, true, o.sparesPipe true⟩
  let p : Place := ⟨line, c, n + 1 < o.frames.length, true⟩
  let kind := LineKind.read d s line c
  match kind, o.leaf.underlines with
  | .text _, true => o.follow d s p kind true
  | _, _ => (o.leave true n).follow d s p kind false

/-- Adds a line that goes on with all containers and opens none. -/
def addInside (d : Dialect) (o : Outline) (line : Line) (c : Cursor) : Outline :=
  let s : Surrounding :=
    ⟨o.head, o.leaf.underlines, o.leaf.isTable, o.isInterrupted, false, o.sparesPipe false⟩
  o.follow d s ⟨line, c, 1 < o.frames.length, false⟩ (LineKind.read d s line c) true

/-- Adds a line that is read from `c`. -/
def addFrom (d : Dialect) (o : Outline) (line : Line) (c : Cursor) : Outline :=
  let (kept, left, c) := keep d [] o.frames.reverse c
  let o := { o with frames := left.reverse ++ kept }
  match if left.isEmpty then o.addRaw? d c line.ending else none with
  | some o => { o with interrupts := false, lazy := false }
  | none =>
    let (ks, c') := Container.openAll d (o.interrupts && left.isEmpty) line.ending c
    if !ks.isEmpty then o.addOpening d left.length ks line c'
    else if !left.isEmpty then o.addLeaving d left.length line c
    else o.addInside d line c

def next (d : Dialect) (o : Outline) (line : Line) : Outline := o.addFrom d line ⟨0, 0, line.body⟩

/-- The blocks after the last line. -/
def finish (o : Outline) : List Block :=
  match closeFrames o.frames.length (o.closeLeaf o.lazy).frames with
  | [] => []
  | f :: _ => Part.blocks f.parts.reverse

end Outline

/-- The blocks of a document. A byte order mark in front of it belongs to the margin. -/
def Block.all (d : Dialect) (t : Text) : List Block :=
  let first (l : Line) : Cursor :=
    match l.body with
    | '\uFEFF' :: t => ⟨byteCount ['\uFEFF'], 0, t⟩
    | t => ⟨0, 0, t⟩
  match Line.all t with
  | [] => []
  | l :: ls => (ls.foldl (Outline.next d) (Outline.start.addFrom d l (first l))).finish

end MarkupBridge.Markdown
