import MarkupBridge.Markdown.Character

namespace MarkupBridge.Markdown.Tag
open Text

/-- How far into a tag the characters so far have come. -/
inductive Place where
  | name | closingName | closingEnd | between | attributeName | afterName | beforeValue
  | quoted (quote : Char) | afterQuoted | unquoted | slash | done

def isSpace (c : Char) : Bool := isPad c || isLineEnd c

def isNameChar (c : Char) : Bool := c.isAlphanum || c == '-'

def isAttributeChar (c : Char) : Bool :=
  c.isAlphanum || c == '-' || c == '.' || c == ':' || c == '_'

namespace Place

def finish? (c : Char) : Option Place := if c = '>' then some done else none

def between? (c : Char) : Option Place :=
  if isSpace c then some between
  else if c = '/' then some slash
  else if c.isAlpha || c == ':' || c == '_' then some attributeName
  else finish? c

/-- The place after one more character, if a tag can have it there. -/
def step? (c : Char) : Place → Option Place
  | name =>
    if isNameChar c then some name
    else if isSpace c || c == '/' || c == '>' then between? c
    else none
  | closingName =>
    if isNameChar c then some closingName
    else if isSpace c then some closingEnd
    else finish? c
  | closingEnd => if isSpace c then some closingEnd else finish? c
  | between => between? c
  | attributeName =>
    if isAttributeChar c then some attributeName
    else if isSpace c then some afterName
    else if c = '=' then some beforeValue
    else between? c
  | afterName =>
    if isSpace c then some afterName else if c = '=' then some beforeValue else between? c
  | beforeValue =>
    if isSpace c then some beforeValue
    else if c = '"' || c = '\'' then some (quoted c)
    else if c = '<' || c = '=' || c = '>' || c = '\x60' then none
    else some unquoted
  | quoted q => if c = q then some afterQuoted else some (quoted q)
  | afterQuoted => if isSpace c || c == '/' || c == '>' then between? c else none
  | unquoted =>
    if isSpace c || c == '/' || c == '>' then between? c
    else if c = '"' || c = '\'' || c = '<' || c = '=' || c = '\x60' then none
    else some unquoted
  | slash => finish? c
  | done => none

end Place

/-- What follows a tag that has come to `p`. -/
def finish? : Place → Text → Option Text
  | .done, t => some t
  | _, [] => none
  | p, c :: t => (p.step? c).bind fun p => finish? p t

/-- Whether a tag that has come to `p` is not at its end after `t`, and may yet come there. -/
def isPending : Place → Text → Bool
  | .done, _ => false
  | _, [] => true
  | p, c :: t => (p.step? c).any fun p => isPending p t

/-- What follows the first `mark`. -/
def past? (mark : String) (t : Text) : Option Text := (cut? mark.toList t).map (·.2)

/-- What follows `<!` and a bracket where character data begins. -/
def dataMark : Text := "CDATA[".toList

/-- What follows the raw markup whose `<` comes before `t`. The first `skipped` letters of the mark of
character data need not be there. -/
def skip? (skipped : Nat) (t : Text) : Option Text :=
  match t with
  | '!' :: '-' :: '-' :: t => past? "-->" ('-' :: '-' :: t)
  | '!' :: '[' :: t => (after? (dataMark.drop skipped) t).bind (past? "]]>")
  | '!' :: c :: t => if c.isAlpha then past? ">" t else none
  | '?' :: t => past? "?>" t
  | '/' :: c :: t => if c.isAlpha then finish? .closingName t else none
  | c :: t => if c.isAlpha then finish? .name t else none
  | [] => none

/-- Raw markup as it is kept: without the pads that begin a line. -/
def tightened : Text → Text
  | [] => []
  | c :: t =>
    if isLineEnd c then c :: atLine t else c :: tightened t
where
  atLine : Text → Text
    | [] => []
    | c :: t =>
      if isPad c then atLine t else if isLineEnd c then c :: atLine t else c :: tightened t

end Tag

/-- A block of raw markup: what its first line begins with decides where it ends. -/
inductive HtmlKind where
  | verbatim | comment | instruction | declaration | characterData | flow | single
deriving DecidableEq, Repr

namespace HtmlKind
open Text Tag

def verbatimNames : List String := ["pre", "script", "style", "textarea"]

def flowNames : List String :=
  ["address", "article", "aside", "base", "basefont", "blockquote", "body", "caption", "center",
   "col", "colgroup", "dd", "details", "dialog", "dir", "div", "dl", "dt", "fieldset",
   "figcaption", "figure", "footer", "form", "frame", "frameset", "h1", "h2", "h3", "h4", "h5",
   "h6", "head", "header", "hr", "html", "iframe", "legend", "li", "link", "main", "menu",
   "menuitem", "nav", "noframes", "ol", "optgroup", "option", "p", "param", "search", "section",
   "summary", "table", "tbody", "td", "tfoot", "th", "thead", "title", "tr", "track", "ul"]

def isAlone (t : Text) : Bool := t.all isPad

/-- The kind of block whose first tag is named `name`; `t` follows the name. -/
def ofTag? (interrupts closing : Bool) (name t : Text) : Option HtmlKind :=
  let slash := t.head? = some '/'
  let lowered := String.ofList (lowerAscii name)
  if !t.head?.all fun c => isSpace c || c == '/' || c == '>' then none
  else if !closing && !slash && verbatimNames.contains lowered then some verbatim
  else if flowNames.contains lowered then
    if !slash || t.tail.head? = some '>' then some flow else none
  else if interrupts then none
  else match Tag.finish? (if closing then .closingName else .name) t with
    | some rest => if isAlone rest then some single else none
    | none => none

def ofName? (interrupts closing : Bool) (t : Text) : Option HtmlKind :=
  if t.head?.any Char.isAlpha then
    ofTag? interrupts closing (t.takeWhile isNameChar) (t.dropWhile isNameChar)
  else none

/-- The kind of block that a line begins whose `<` comes before `t`. A lone tag of no special name
does not end a paragraph. Every tag counts as a closing one if `closing` says so. -/
def read? (interrupts closing : Bool) : Text → Option HtmlKind
  | '!' :: '-' :: '-' :: _ => some comment
  | '!' :: '[' :: 'C' :: 'D' :: 'A' :: 'T' :: 'A' :: '[' :: _ => some characterData
  | '!' :: c :: _ => if c.isAlpha then some declaration else none
  | '?' :: _ => some instruction
  | '/' :: t => ofName? interrupts true t
  | t => ofName? interrupts closing t

/-- Whether `<` and `t` begin a tag. -/
def beginsTag (t : Text) : Bool := t.head?.any fun c => c == '/' || c.isAlpha

/-- Whether a name and what follows it may yet become a tag. -/
def isNamePending (closing : Bool) (t : Text) : Bool :=
  let name := t.takeWhile isNameChar
  let rest := t.dropWhile isNameChar
  if rest.isEmpty then true
  else if flowNames.contains (String.ofList (lowerAscii name)) then rest = ['/']
  else Tag.isPending (if closing then .closingName else .name) rest

/-- Whether a last line that begins with `<` and ends with `t` leaves open what it begins. It is no
block that `read?` knows. -/
def isPending (closing : Bool) : Text → Bool
  | [] => true
  | '!' :: '[' :: t => t.length < dataMark.length && startsWith t dataMark
  | '!' :: t => t.isEmpty || t = ['-']
  | '/' :: t => t.isEmpty || t.head?.any Char.isAlpha && isNamePending true t
  | t => t.head?.any Char.isAlpha && isNamePending closing t

def contains (mark : String) (t : Text) : Bool := (cut? mark.toList t).isSome

def closesVerbatim (t : Text) : Bool :=
  verbatimNames.any fun name => contains ("</" ++ name ++ ">") (lowerAscii t)

/-- Whether a line ends the block. -/
def ends (k : HtmlKind) (t : Text) : Bool :=
  match k with
  | verbatim => closesVerbatim t
  | comment => contains "-->" t
  | instruction => contains "?>" t
  | declaration => contains ">" t
  | characterData => contains "]]>" t
  | flow | single => false

/-- The blocks that a blank line ends. -/
def endsAtBlank : HtmlKind → Bool
  | flow | single => true
  | _ => false

end HtmlKind

end MarkupBridge.Markdown
