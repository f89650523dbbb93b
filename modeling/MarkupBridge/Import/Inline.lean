import MarkupBridge.Import.Draft

namespace MarkupBridge.Import
open Text Markdown

/-- `[[url | text]]`, without the text where it adds nothing. -/
def link (url text : Text) (d : Draft) : Draft :=
  d.write (['[', '['] ++ url
    ++ (if text.isEmpty || text == url then [] else " | ".toList ++ text) ++ [']', ']'])

/-- `img \x7b url | description \x7d`; the title describes an image before its alternative text
does. -/
def image (r : Resource) (alt : Text) (d : Draft) : Draft :=
  let description := ((r.title.bind nonempty?).or (nonempty? alt)).elim [] (" | ".toList ++ ·)
  d.write ("img \x7b ".toList ++ r.url ++ description ++ " \x7d".toList)

/-- What stands after the brackets of a reference. -/
def referenceLabel (kind : ReferenceKind) (label : Label) (d : Draft) : Draft :=
  match kind with
  | .full => d.write (['['] ++ label.label.getD label.identifier ++ [']'])
  | .collapsed => d.write ['[', ']']
  | .shortcut => d

/-- A reference without a definition is written back as it was. -/
def imageReference (kind : ReferenceKind) (label : Label) (alt : Text) (d : Draft) : Draft :=
  match d.definition? label.identifier with
  | some r => image r alt d
  | none => referenceLabel kind label (d.write (['!', '['] ++ alt ++ [']']))

mutual

/-- A node without a form in the wiki keeps the text of its children. -/
def inline : Node → Draft → Draft
  | .text value, d => d.write value
  | .lineBreak, d => d.write ['\n']
  | .inlineCode value, d => d.write (['\x60'] ++ value ++ ['\x60'])
  | .emphasis [.strong cs], d => (inlines cs (d.write "**//".toList)).write "//**".toList
  | .emphasis cs, d => (inlines cs (d.write ['/', '/'])).write ['/', '/']
  | .strong cs, d => (inlines cs (d.write ['*', '*'])).write ['*', '*']
  | .delete cs, d => (inlines cs (d.write ['~', '~'])).write ['~', '~']
  | .link r cs, d =>
    let (t, d) := d.capture (inlines cs)
    link r.url t d
  | .image r alt, d => image r alt d
  | .linkReference kind label cs, d => match d.definition? label.identifier with
    | some r =>
      let (t, d) := d.capture (inlines cs)
      link r.url t d
    | none => referenceLabel kind label ((inlines cs (d.write ['['])).write [']'])
  | .imageReference kind label alt, d => imageReference kind label alt d
  | .html value, d => d.write value
  | .root cs, d | .paragraph cs, d | .heading _ cs, d | .blockquote cs, d | .list _ _ _ cs, d
  | .listItem _ _ cs, d | .footnoteDefinition _ cs, d | .table _ cs, d | .tableRow cs, d
  | .tableCell cs, d | .flowElement cs, d | .textElement cs, d => inlines cs d
  | _, d => d

def inlines : List Node → Draft → Draft
  | [], d => d
  | n :: ns, d => inlines ns (inline n d)

end

end MarkupBridge.Import
