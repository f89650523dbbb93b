import MarkupBridge.Markdown.Outline
import MarkupBridge.Markdown.Phrase

namespace MarkupBridge.Markdown
open Text

namespace Block

/-- The box in front of a task's text, and what follows it. -/
def box? : Text → Option (Bool × Text)
  | '[' :: c :: ']' :: t =>
    if c = 'x' || c = 'X' then some (true, t)
    else if isPad c || isLineEnd c then some (false, t)
    else none
  | _ => none

/-- The nodes of a text that begins with a box, if a blank and more text follow the box. -/
def task? (s : Scope) (p : Passage) : Option (Bool × List Node) := do
  guard (s.dialect.gfm && !p.margin.inTab)
  let (checked, t) ← box? p.text
  guard (t.head?.any isLineEnd || (t.head?.any isPad && !t.all isPad))
  return (checked, s.readAfter ']' (Margin.after p.margins.tail p.text t) t)

/-- A text without the blank between its box and the rest. -/
def dropBlank : List Node → List Node
  | .text t :: ns =>
    match afterLineEnd? t, t with
    | some t, _ => restore t ns
    | none, c :: t => if isPad c then restore t ns else .text (c :: t) :: ns
    | none, [] => ns
  | ns => ns
where
  restore (t : Text) (ns : List Node) : List Node := if t.isEmpty then ns else .text t :: ns

/-- The text of a paragraph without the end of its last line. -/
def readText (s : Scope) (p : Passage) : List Node := s.read { p with text := chopLineEnd p.text }

def cellNode (s : Scope) (c : Cell) : Node := .tableCell (s.readCell c.before c.after c.text)

/-- The task that a paragraph of an item is, which comes `later` than the first line of the item. No
quote has then come between the two. -/
def itemTask? (s : Scope) (later : Bool) (p : Passage) : Option (Bool × List Node) :=
  if later && p.margin.marks.contains '>' then none
  else task? s { p with text := chopLineEnd p.text }

mutual

def toNode (s : Scope) : Block → Node
  | paragraph t => .paragraph (readText s t)
  | heading depth t => .heading depth (readText s t)
  | rule => .thematicBreak
  | quote bs => .blockquote (toNodes s bs)
  | list m spread items => .list m.start.isSome m.start spread (toNodes s items)
  | item bare spread bs =>
    let (checked, ns) := itemNodes s bare false bs
    .listItem checked spread ns
  | code lang info value => .code lang info value
  | math info value => .math info value
  | html value => .html value
  | definition d => .definition d.label d.resource
  | footnote label bs => .footnoteDefinition label (toNodes s bs)
  | table align rows => .table align (rows.map fun row => .tableRow (row.map (cellNode s)))

def toNodes (s : Scope) : List Block → List Node
  | [] => []
  | b :: bs => toNode s b :: toNodes s bs

/-- The nodes of an item, and whether it is a task that is done: the first text behind its
definitions says so. -/
def itemNodes (s : Scope) (bare defines : Bool) : List Block → Option Bool × List Node
  | [] => (none, [])
  | definition d :: bs =>
    let (checked, ns) := itemNodes s bare true bs
    (checked, .definition d.label d.resource :: ns)
  | paragraph p :: bs =>
    match itemTask? s (bare || defines) p with
    | some (checked, ns) =>
      (some checked, .paragraph (if defines then ns else dropBlank ns) :: toNodes s bs)
    | none => (none, .paragraph (readText s p) :: toNodes s bs)
  | b :: bs => (none, toNode s b :: toNodes s bs)

end

end Block

/-- The tree of a document. Its blocks are read first: the text in each needs the labels that any
block defines. -/
def Node.ofText (d : Dialect) (t : Text) : Node :=
  let blocks := Block.all d t
  .root (Block.toNodes ⟨d, Block.definedAll blocks, Block.footnotesAll blocks, false⟩ blocks)

end MarkupBridge.Markdown
