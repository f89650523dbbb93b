import MarkupBridge.Markdown.Autolink
import MarkupBridge.Markdown.Passage

namespace MarkupBridge.Markdown
open Text

/-- Some equal marks in a row. The neighbours decide whether they can begin and end a stretch. -/
structure Run where
  mark : Char
  size : Nat
  opens : Bool
  closes : Bool
deriving DecidableEq, Repr

namespace Run

/-- A mark of another kind on one side stands for text. -/
def leans (mark : Char) (neighbour : Option Char) (strikes : Bool) : Bool :=
  mark != '~' && neighbour.any fun c => c == '*' || c == '_' || (strikes && c == '~')

/-- The run of `size` marks between two characters. Underscores inside a word mean nothing. -/
def between (strikes : Bool) (mark : Char) (size : Nat) (left right : Option Char) : Run :=
  let before := CharClass.of left
  let after := CharClass.of right
  let opens := after = .other || (after = .punctuation && before ≠ .other)
    || leans mark right strikes
  let closes := before = .other || (before = .punctuation && after ≠ .other)
    || leans mark left strikes
  if mark = '_' then
    ⟨mark, size, opens && (before ≠ .other || !closes), closes && (after ≠ .other || !opens)⟩
  else ⟨mark, size, opens, closes⟩

/-- Whether the run `o` begins a stretch that the run `c` ends. -/
def matchesCloser (o c : Run) : Bool :=
  o.opens && o.mark == c.mark
    && !((o.closes || c.opens) && c.size % 3 != 0 && (o.size + c.size) % 3 == 0)
    && (c.mark != '~' || (c.size == o.size && c.size ≤ 2))

/-- The marks that two runs spend on one stretch. -/
def spent (o c : Run) : Nat := if 1 < o.size && 1 < c.size then 2 else 1

end Run

/-- Where a stretch of characters begins: inside a line, or at the start of one. -/
inductive StretchStart where
  | inside
  | line (inTab : Bool)
deriving DecidableEq, Repr

/-- Where a stretch of characters ends. -/
inductive StretchEnd where
  | inside | line | whole
deriving DecidableEq, Repr

/-- The part of a stretch that counts, and whether a line break follows it. Pads are dropped at the two
ends of a line; two spaces or more before its end break it. -/
def trimStretch (start : StretchStart) (stop : StretchEnd) (t : Text) : Text × Bool :=
  let body := if stop = .inside then t else dropEndWhile isPad t
  let pads := t.drop body.length
  let body := match start with
    | .inside => body
    | .line inTab => Margin.trim inTab body
  (body, stop = .line && 2 ≤ pads.length && pads.all (· == ' '))

inductive Piece where
  | char (c : Char)
  /-- Text that is not looked at again. -/
  | text (t : Text)
  | run (r : Run)
  | node (n : Node)
  /-- The end of a line, with what it counts for; the next line may begin inside a tab. -/
  | lineEnd (t : Text) (inTab : Bool)

namespace Piece

/-- A node in front of others; texts side by side are one. -/
def consNode (n : Node) (ns : List Node) : List Node :=
  match n, ns with
  | .text a, .text b :: ns => .text (a ++ b) :: ns
  | n, ns => n :: ns

/-- The nodes of a stretch. Mail addresses in it are links if `mails` says so. -/
def stretchNodes (mails : Bool) (t : Text) : List Node :=
  if t.isEmpty then [] else if mails then Autolink.mails t else [.text t]

/-- The nodes of the pieces after the characters `chars`, reversed, which began at `start`. Runs are
marks and no more. The last stretch ends at `stop`. -/
def nodesAfter (mails : Bool) (start : StretchStart) (stop : StretchEnd) (chars : Text) :
    List Piece → List Node
  | [] => stretchNodes mails (trimStretch start stop chars.reverse).1
  | char c :: ps => nodesAfter mails start stop (c :: chars) ps
  | run r :: ps => nodesAfter mails start stop (List.replicate r.size r.mark ++ chars) ps
  | text t :: ps => (inside start chars ++ [Node.text t]).foldr consNode
      (nodesAfter mails .inside stop [] ps)
  | node n :: ps => (inside start chars ++ [n]).foldr consNode
      (nodesAfter mails .inside stop [] ps)
  | lineEnd t inTab :: ps =>
    let (body, breaks) := trimStretch start .line chars.reverse
    let ending := if breaks then Node.lineBreak else .text t
    let ends := if !breaks && t.isEmpty then [] else [ending]
    (stretchNodes mails body ++ ends).foldr consNode
      (nodesAfter mails (.line inTab) stop [] ps)
where
  inside (start : StretchStart) (chars : Text) : List Node :=
    stretchNodes mails (trimStretch start .inside chars.reverse).1

/-- The nodes of pieces inside a text. -/
def nodes (mails : Bool) (ps : List Piece) : List Node := nodesAfter mails .inside .inside [] ps

/-- The nearest run that begins what `c` ends, with the pieces after it, and the pieces before it,
the last first. -/
def opener? (c : Run) (between : List Piece) : List Piece → Option (List Piece × Run × List Piece)
  | [] => none
  | p :: ps =>
    match p with
    | run o => if o.matchesCloser c then some (between, o, ps) else opener? c (p :: between) ps
    | _ => opener? c (p :: between) ps

def emphasized (mark : Char) (spent : Nat) (ns : List Node) : Node :=
  if mark = '~' then .delete ns else if spent = 2 then .strong ns else .emphasis ns

/-- What is left of a run. -/
def remains (r : Run) (spent : Nat) : List Piece :=
  if r.size ≤ spent then [] else [run { r with size := r.size - spent }]

/-- Adds a run to the pieces before it, the last first. It ends as many stretches as it has marks
for, at most `n`. -/
def addRun (mails : Bool) : Nat → Run → List Piece → List Piece
  | 0, r, before => run r :: before
  | n + 1, r, before =>
    if r.closes then
      match opener? r [] before with
      | some (inner, o, outer) =>
        let k := o.spent r
        let before := node (emphasized r.mark k (nodes mails inner)) :: (remains o k ++ outer)
        if r.size ≤ k then before else addRun mails n { r with size := r.size - k } before
      | none => run r :: before
    else run r :: before

def addPiece (mails : Bool) (before : List Piece) : Piece → List Piece
  | run r => addRun mails r.size r before
  | p => p :: before

/-- The pieces that are left when all runs have ended what they can. -/
def reduce (mails : Bool) (ps : List Piece) : List Piece :=
  (ps.foldl (addPiece mails) []).reverse

/-- The nodes of pieces inside a text whose runs are yet to be read. -/
def resolve (mails : Bool) (ps : List Piece) : List Node := nodes mails (reduce mails ps)

/-- The nodes of a whole text, which begins at `start`. -/
def resolveWhole (mails : Bool) (start : StretchStart) (ps : List Piece) : List Node :=
  nodesAfter mails start .whole [] (reduce mails ps)

end Piece

end MarkupBridge.Markdown
