import MarkupBridge.Markdown.Escape
import MarkupBridge.Markdown.Node

namespace MarkupBridge.Markdown
open Text

namespace Label

/-- White space parts the words of a label. -/
def isGap (c : Char) : Bool := isPad c || isLineEnd c

def words (t : Text) : List Text :=
  (split ' ' (t.map fun c => if isGap c then ' ' else c)).filter (!·.isEmpty)

/-- The name that a label gives: its words with one space between them, in one case. A label that
begins with its first word has none between the first two. -/
def normalize (t : Text) : Text :=
  lower (upper (lower (match t.head?.all isGap, words t with
    | false, w :: ws => w ++ join [' '] ws
    | _, ws => join [' '] ws)))

/-- The label written as `raw`, whose lines after the first have the margins `ms`. -/
def ofRaw (ms : List Margin) (raw : Text) : Label :=
  ⟨normalize (Margin.weave ms raw), some (Escape.plain ms raw)⟩

/-- The longest label, in bytes. -/
def maxSize : Nat := 999

/-- The text up to the bracket that closes a label, and what follows the bracket. -/
def scan : Text → Option (Text × Text)
  | [] => none
  | '\\' :: c :: t =>
    if c = '[' || c = '\\' || c = ']' then (scan t).map fun (a, b) => ('\\' :: c :: a, b)
    else (scan (c :: t)).map fun (a, b) => ('\\' :: a, b)
  | c :: t =>
    if c = ']' then some ([], t)
    else if c = '[' then none
    else (scan t).map fun (a, b) => (c :: a, b)

/-- The label after an opening bracket, as it is written. -/
def readRaw? (t : Text) : Option (Text × Text) :=
  match scan t with
  | some (raw, rest) =>
    if maxSize < byteCount (raw.filter (!isLineEnd ·)) || raw.all isGap then none
    else some (raw, rest)
  | none => none

/-- The label of a footnote, after the caret: it holds no blanks. -/
def readFootnoteRaw? (t : Text) : Option (Text × Text) :=
  match readRaw? t with
  | some (raw, rest) => if raw.any isGap then none else some (raw, rest)
  | none => none

end Label

/-- Drops pads and line endings. -/
def skipBlanks (t : Text) : Text := t.dropWhile Label.isGap

/-- A destination between angle brackets, read after the first: no line ending, no bracket. -/
def enclosed? : Text → Option (Text × Text)
  | [] => none
  | '\\' :: c :: t =>
    if c = '<' || c = '>' || c = '\\' then (enclosed? t).map fun (a, b) => ('\\' :: c :: a, b)
    else (enclosed? (c :: t)).map fun (a, b) => ('\\' :: a, b)
  | c :: t =>
    if c = '>' then some ([], t)
    else if c = '<' || isLineEnd c then none
    else (enclosed? t).map fun (a, b) => (c :: a, b)

/-- A destination without brackets: parentheses inside are balanced and at most `limit` deep. -/
def bare? (limit : Option Nat) (depth : Nat) : Text → Option (Text × Text)
  | [] => if depth = 0 then some ([], []) else none
  | '\\' :: c :: t =>
    if c = '(' || c = ')' || c = '\\' then
      (bare? limit depth t).map fun (a, b) => ('\\' :: c :: a, b)
    else (bare? limit depth (c :: t)).map fun (a, b) => ('\\' :: a, b)
  | c :: t =>
    if depth = 0 && (isPad c || isLineEnd c || c == ')') then some ([], c :: t)
    else if c = '(' then
      if limit.all (depth < ·) then
        (bare? limit (depth + 1) t).map fun (a, b) => (c :: a, b)
      else none
    else if c = ')' then (bare? limit (depth - 1) t).map fun (a, b) => (c :: a, b)
    else if isControl c || c == ' ' then none
    else (bare? limit depth t).map fun (a, b) => (c :: a, b)

/-- A destination as it is written, without its angle brackets, and what follows. One without
brackets begins inside `depth` parentheses. -/
def destination? (limit : Option Nat) (depth : Nat) : Text → Option (Text × Text)
  | [] => none
  | c :: t =>
    if c = '<' then enclosed? t
    else if isControl c || c == ' ' || c == ')' then none
    else bare? limit depth (c :: t)

/-- The text of a title up to the mark that closes it. -/
def titleBody? (close : Char) : Text → Option (Text × Text)
  | [] => none
  | '\\' :: c :: t =>
    if c = '"' || c = '\'' || c = ')' || c = '\\' then
      (titleBody? close t).map fun (a, b) => ('\\' :: c :: a, b)
    else (titleBody? close (c :: t)).map fun (a, b) => ('\\' :: a, b)
  | c :: t =>
    if c = close then some ([], t)
    else (titleBody? close t).map fun (a, b) => (c :: a, b)

/-- A title in quotes or parentheses, as it is written. -/
def title? : Text → Option (Text × Text)
  | '"' :: t => titleBody? '"' t
  | '\'' :: t => titleBody? '\'' t
  | '(' :: t => titleBody? ')' t
  | _ => none

namespace Resource

/-- A title with nothing in it is none; the lines after its first have the margins `ms`. -/
def ofRaw (ms : List Margin) (url : Text) (title : Option Text) : Resource :=
  ⟨Escape.plain [] url, (title.bind nonempty?).map (Escape.plain ms)⟩

def close? (r : Resource) (t : Text) : Option (Resource × Text) :=
  match t with
  | ')' :: rest => some (r, rest)
  | _ => none

/-- The resource of a link, after its opening parenthesis, and what follows the closing one. The
destination begins inside `depth` parentheses; the next lines have the margins `ms`. -/
def read? (depth : Nat) (ms : List Margin) (t : Text) : Option (Resource × Text) :=
  match skipBlanks t with
  | ')' :: rest => some (⟨[], none⟩, rest)
  | start => do
    let (url, outer) ← destination? (some 32) depth start
    let inner := skipBlanks outer
    if inner.length < outer.length then
      match inner with
      | '"' :: _ | '\'' :: _ | '(' :: _ =>
        let (title, rest) ← title? inner
        close? (ofRaw (Margin.after ms t inner) url (some title)) (skipBlanks rest)
      | _ => close? (ofRaw [] url none) inner
    else close? (ofRaw [] url none) outer

end Resource

end MarkupBridge.Markdown
