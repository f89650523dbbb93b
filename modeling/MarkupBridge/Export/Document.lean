import MarkupBridge.Export.Line
import MarkupBridge.Text.Blank

namespace MarkupBridge.Export
open Text Wiki

def placeholder : Text := "<!-- Transclusion: transclusion not supported in Markdown -->\n".toList

def transclusionWarning (target : Text) : Text :=
  "Transclusion of '".toList ++ target
    ++ "' is not supported in Markdown and was replaced by a comment".toList

def listMarker : Marker → Text
  | .unordered => "- ".toList
  | .ordered => "1. ".toList
  | .todo => "- [ ] ".toList
  | .done => "- [x] ".toList

/-- A fenced block. A last line without an end is given one. -/
def code (language : Option Text) (contents : Text) : Text :=
  "\x60\x60\x60".toList ++ (Block.explicitLanguage? language).getD [] ++ ['\n'] ++ contents
    ++ (if contents.getLast?.all (· == '\n') then [] else ['\n']) ++ "\x60\x60\x60\n".toList

/-- An attribute with its value. -/
def attr (name value : Text) (d : Draft) : Draft :=
  (((d.write (' ' :: name)).write ['=', '"']).writeAttribute value).write ['"']

def attr? (name : Text) (value : Option Text) (d : Draft) : Draft :=
  match value with
  | some v => attr name v d
  | none => d

def rocket (s : Setting) (r : Rocket) (d : Draft) : Draft :=
  (((((d.write "<a href=\"".toList).writeAttribute (s.resolver.resolve r.link.address).href).write
    "\">".toList).writeHtml r.link.display).write "</a><br>\n".toList)

def launchpad (s : Setting) (rockets : List Rocket) (d : Draft) : Draft :=
  ((rockets.filter (!·.empty)).foldl (fun d r => rocket s r d)
    (d.write "<div class=\"launchpad\">\n".toList)).write "</div>\n".toList

def caption (t : Option Text) (d : Draft) : Draft :=
  match t with
  | some t => ((d.write "<caption>".toList).writeHtml t).write "</caption>\n".toList
  | none => d

def cellTag (header : Bool) : Text := if header then ['t', 'h'] else ['t', 'd']

def cellStart (header : Bool) (colspan : Nat) : Text :=
  ['<'] ++ cellTag header
    ++ (if 1 < colspan then " colspan=\"".toList ++ (toString colspan).toList ++ ['"'] else [])
    ++ ['>']

def Block.isList : Block → Bool
  | .list .. => true
  | _ => false

mutual

/-- What Markdown lacks becomes HTML; a transclusion becomes a comment, and it alone raises a
warning. -/
def block (s : Setting) (depth : Nat) : Block → Draft → Draft
  | .heading level ls, d =>
    d.write (List.replicate level '#' ++ [' '] ++ lines s.resolver ls ++ ['\n'])
  | .paragraph ls, d => d.write (lines s.resolver ls ++ ['\n'])
  | .code language contents, d => d.write (code language contents)
  | .list marker items, d => list s depth marker items d
  | .rule, d => d.write "---\n".toList
  | .quote contents, d => quoted s depth contents d
  | .table title rows, d =>
    let d := caption title (d.write "<table>\n".toList)
    let d := match rows with
      | [] => d
      | row :: rest =>
        if Row.isHead row then
          let d := (cells s row (d.write "<thead>\n<tr>".toList)).write "</tr>\n</thead>\n".toList
          if rest.isEmpty then d
          else (bodyRows s rest (d.write "<tbody>\n".toList)).write "</tbody>\n".toList
        else (bodyRows s (row :: rest) (d.write "<tbody>\n".toList)).write "</tbody>\n".toList
    d.write "</table>\n".toList
  | .image _ [e], d =>
    let (alt, d) := d.capture (blocks s 0 e.description)
    d.write
      ("![".toList ++ trim alt ++ "](".toList ++ s.resolver.imageSource e.target ++ ")\n".toList)
  | .image _ entries, d =>
    (images s entries (d.write "<div class=\"img-gallery\">\n".toList)).write "</div>\n".toList
  | .launchpad rockets, d => launchpad s rockets d
  | .transclusion target, d => (d.warn (transclusionWarning target)).write placeholder
  | .unknown kind, d => d.write ("<!-- Unknown block type: ".toList ++ kind ++ " -->\n".toList)

/-- Blocks one after the other. -/
def blocks (s : Setting) (depth : Nat) : List Block → Draft → Draft
  | [], d => d
  | b :: bs, d => blocks s depth bs (block s depth b d)

def list (s : Setting) (depth : Nat) (marker : Marker) : List (List Block) → Draft → Draft
  | [], d => d
  | item :: items, d =>
    list s depth marker items
      (itemBlocks s depth true item ((d.write (s.indentation depth)).write (listMarker marker)))

/-- The blocks of an item. While `isOpen` its line has no end yet; a nested list ends it. -/
def itemBlocks (s : Setting) (depth : Nat) (isOpen : Bool) : List Block → Draft → Draft
  | [], d => if isOpen then d.write ['\n'] else d
  | b :: bs, d =>
    if Block.isList b then
      itemBlocks s depth false bs (block s (depth + 1) b (if isOpen then d.write ['\n'] else d))
    else itemBlocks s depth false bs (block s depth b d)

/-- Each block after a mark; the lines of a block after its first have none. -/
def quoted (s : Setting) (depth : Nat) : List Block → Draft → Draft
  | [], d => d
  | b :: bs, d =>
    let (t, d) := d.capture (block s depth b)
    quoted s depth bs (d.write (['>', ' '] ++ dropEndWhile (· == '\n') t ++ ['\n']))

def bodyRows (s : Setting) : List (List (Cell (List Block))) → Draft → Draft
  | [], d => d
  | row :: rows, d =>
    bodyRows s rows ((cells s row (d.write "<tr>".toList)).write "</tr>\n".toList)

def cells (s : Setting) : List (Cell (List Block)) → Draft → Draft
  | [], d => d
  | ⟨contents, colspan, header⟩ :: row, d =>
    let (t, d) := (d.write (cellStart header colspan)).capture (blocks s 0 contents)
    cells s row (d.write (trim t ++ ['<', '/'] ++ cellTag header ++ ['>']))

def images (s : Setting) : List (ImageEntry (List Block)) → Draft → Draft
  | [], d => d
  | ⟨target, width, height, description⟩ :: entries, d =>
    let d := attr "src".toList (s.resolver.imageSource target) (d.write "<img".toList)
    let d := attr? "height".toList height (attr? "width".toList width d)
    let (alt, d) := d.capture (blocks s 0 description)
    images s entries ((attr? "alt".toList (nonempty? (trim alt)) d).write ">\n".toList)

end

/-- Blocks with a blank line between any two of them. -/
def separated (s : Setting) : List Block → Draft → Draft
  | [], d => d
  | [b], d => block s 0 b d
  | b :: bs, d => separated s bs ((block s 0 b d).write ['\n'])

/-- Spaces for a level of nesting, unless told otherwise. -/
def defaultIndent : Nat := 4

def document (s : Setting) (bs : List Block) : Conversion := (separated s bs .empty).finish

end MarkupBridge.Export
