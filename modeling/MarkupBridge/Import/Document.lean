import MarkupBridge.Import.Inline
import MarkupBridge.Wiki.Row

namespace MarkupBridge.Import
open Text Markdown

/-- A fenced block; an empty value takes no line. -/
def code (lang : Option Text) (value : Text) : Text :=
  "\x60\x60\x60".toList ++ lang.getD [] ++ ['\n']
    ++ (if value.isEmpty then [] else value ++ ['\n']) ++ "\x60\x60\x60\n".toList

/-- A task is marked by its state, any other item by its innermost list. -/
def itemMarker (checked : Option Bool) (d : Draft) : Text :=
  match checked with
  | some true => ['*', 'v']
  | some false => ['*', 'x']
  | none => if d.inOrderedList then ['*', '.'] else ['*']

/-- The paragraphs among an item's children, with a space between any two of them. -/
def itemText (first : Bool) : List Node → Draft → Draft
  | [], d => d
  | .paragraph cs :: ns, d => itemText false ns (inlines cs (if first then d else d.write [' ']))
  | _ :: ns, d => itemText first ns d

/-- The cells of a row. A cell of an aligned column is a header. -/
def cells (align : List (Option Align)) : List Node → Draft → Text × Draft
  | [], d => ([], d)
  | .tableCell cs :: ns, d =>
    let (t, d) := d.capture (inlines cs)
    let (row, d) := cells align.tail ns d
    ([if (align.headD none).isSome then '!' else '|', ' '] ++ Wiki.Row.escape (trim t) ++ [' ']
      ++ row, d)
  | _ :: ns, d => cells align.tail ns d

def rows (align : List (Option Align)) : List Node → Draft → Draft
  | [], d => d
  | .tableRow cs :: ns, d =>
    let (row, d) := cells align cs d
    rows align ns (d.write (trimEnd row ++ ['\n']))
  | _ :: ns, d => rows align ns d

mutual

/-- Lists nest by tabs, one line for an item. A paragraph is written by whatever it stands in, so
only one at the top writes itself. -/
def block : Node → Draft → Draft
  | .root cs, d => separated cs d
  | .heading depth cs, d =>
    (inlines cs (d.write (List.replicate depth '=' ++ [' ']))).write ['\n']
  | .paragraph cs, d => if d.isTopLevel then (inlines cs d).write ['\n'] else d
  | .code lang _ value, d => d.write (code lang value)
  | .thematicBreak, d => d.write "----\n".toList
  | .list ordered _ _ cs, d => (blocks cs (d.enter (.list ordered))).exit
  | .listItem checked _ cs, d =>
    let d := d.write (List.replicate (d.listDepth - 1) '\t' ++ itemMarker checked d ++ [' '])
    let d := (itemText true cs d).write ['\n']
    (blocks cs (d.enter .item)).exit
  | .blockquote cs, d => (quoted cs (d.enter .quote)).exit
  | .table align cs, d =>
    (rows align cs (d.write "table \x7b\n".toList)).write "\x7d\n".toList
  | .html value, d => d.write (value ++ ['\n'])
  | _, d => d

def blocks : List Node → Draft → Draft
  | [], d => d
  | n :: ns, d => blocks ns (block n d)

/-- Blocks with a blank line between any two of them; one that writes nothing takes no place. -/
def separated : List Node → Draft → Draft
  | [], d => d
  | n :: ns, d =>
    let (t, d) := d.capture (block n)
    separated ns (if t.isEmpty then d else d.startBlock.write t)

/-- Each block after a mark; the lines of a block after its first have none. -/
def quoted : List Node → Draft → Draft
  | [], d => d
  | .paragraph cs :: ns, d => quoted ns ((inlines cs (d.write ['>', ' '])).write ['\n'])
  | n :: ns, d =>
    let (t, d) := (d.write ['>', ' ']).capture (block n)
    quoted ns (d.write (dropEndWhile (· == '\n') t ++ ['\n']))

end

def define (definitions : List (Label × Resource)) (d : Draft) : Draft :=
  definitions.foldl (fun d (label, r) => d.define label.identifier r) d

def isRoot : Node → Bool
  | .root _ => true
  | _ => false

/-- A tree that is no root is converted like the only child of one. -/
def document (tree : Node) : Conversion :=
  let d := define tree.definitions .empty
  (block tree (if isRoot tree then d else d.startBlock)).finish

end MarkupBridge.Import
