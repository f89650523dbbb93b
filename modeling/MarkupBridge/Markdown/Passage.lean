import MarkupBridge.Markdown.Character

namespace MarkupBridge.Markdown
open Text

/-- A line with its ending, which the last one of a document may lack. -/
structure Line where
  body : Text
  ending : Text
deriving DecidableEq, Repr

namespace Line

def text (l : Line) : Text := l.body ++ l.ending

/-- The lines of a text. Nothing after the last line ending is no line. -/
def all : Text → List Line
  | [] => []
  | '\r' :: '\n' :: t => ⟨[], ['\r', '\n']⟩ :: all t
  | c :: t =>
    if isLineEnd c then ⟨[], [c]⟩ :: all t
    else match all t with
      | [] => [⟨[c], []⟩]
      | l :: ls => ⟨c :: l.body, l.ending⟩ :: ls

end Line

/-- What stands in a line before the text of a block: the marks of the containers around it, which
are no part of what the block says. The text may begin inside a tab, which is then the last
character of the margin. -/
structure Margin where
  marks : Text
  inTab : Bool
deriving DecidableEq, Repr

namespace Margin

def empty : Margin := ⟨[], false⟩

/-- The text of a line without the pads that begin it. Inside a tab one character of white space
stays, the last before the text. -/
def trim (inTab : Bool) (t : Text) : Text :=
  let body := t.dropWhile isPad
  if inTab && !body.isEmpty then ((t.takeWhile isPad).getLast?.getD '\t') :: body else body

/-- A text as it stands in the document, where its lines after the first have the margins `ms`. -/
def weave (ms : List Margin) : Text → Text
  | [] => []
  | '\r' :: '\n' :: t => '\r' :: '\n' :: (marksOf ms ++ weave ms.tail t)
  | c :: t => if isLineEnd c then c :: (marksOf ms ++ weave ms.tail t) else c :: weave ms t
where
  marksOf (ms : List Margin) : Text := (ms.head?.map marks).getD []

/-- The margins of the lines after the one in which `rest`, the end of `t`, begins; those after the
first line of `t` are `ms`. -/
def after (ms : List Margin) (t rest : Text) : List Margin :=
  ms.drop ((Line.all (t.take (t.length - rest.length))).countP (!·.ending.isEmpty))

end Margin

/-- The text of a block with the margins of its lines. -/
structure Passage where
  text : Text
  margins : List Margin
deriving DecidableEq, Repr

namespace Passage

def empty : Passage := ⟨[], []⟩

def isEmpty (p : Passage) : Bool := p.text.isEmpty

def ofLine (m : Margin) (t : Text) : Passage := ⟨t, [m]⟩

/-- Two passages as one; the second begins a line. -/
def append (p q : Passage) : Passage := ⟨p.text ++ q.text, p.margins ++ q.margins⟩

def join (ps : List Passage) : Passage := ps.foldr append empty

/-- The margin of the first line. -/
def margin (p : Passage) : Margin := p.margins.headD .empty

/-- The lines from the one that `rest`, the end of the text, begins. -/
def dropTo (p : Passage) (rest : Text) : Passage := ⟨rest, Margin.after p.margins p.text rest⟩

end Passage

end MarkupBridge.Markdown
