import MarkupBridge.Markdown.Block

namespace MarkupBridge.Markdown

/-- What a container holds while its lines are read; blank lines spread the lists and items they
stand in. An item is `joined` to the one before it if not so much as the end of a line parts the
two. -/
inductive Part where
  | block (b : Block)
  | item (marker : Marker) (joined : Bool) (b : Block)
  | blank

/-- A list that more items may follow. `items` holds them, the last first, and `inner` the items joined
to the last of them, again the last first; `blanks` counts the blank lines since. The next item is of
the list if its sign is among `signs`. -/
structure Series where
  marker : Marker
  spread : Bool
  items : List Block
  inner : List (Marker × Block)
  blanks : Nat
  signs : List Char

namespace Series

def start (m : Marker) (b : Block) : Series := ⟨m, false, [b], [], 0, [m.sign]⟩

/-- Items joined to another make a list in the list, each one inside the one before. -/
def innerList (inner : List (Marker × Block)) : List Block :=
  inner.foldl (fun list (m, b) => [.list m false (b :: list)]) []

def allItems (s : Series) : List Block := innerList s.inner ++ s.items

def isBareItem : Block → Bool
  | .item _ _ [] => true
  | _ => false

/-- Whether the blank lines behind the last item spread the list. One may end an item that holds
nothing. -/
def isParted (s : Series) : Bool :=
  1 < s.blanks || (s.blanks == 1 && !(s.allItems.head?.any isBareItem))

def add (s : Series) (m : Marker) (b : Block) : Series :=
  ⟨s.marker, s.spread || s.isParted, b :: s.allItems, [], 0, [m.sign]⟩

def join (s : Series) (m : Marker) (b : Block) : Series :=
  { s with inner := (m, b) :: s.inner, signs := m.sign :: s.signs }

/-- The list, and the blank lines behind it. -/
def parts (s : Series) : List (Option Block) :=
  some (.list s.marker s.spread s.allItems.reverse) :: List.replicate s.blanks none

end Series

namespace Part

/-- The blocks of the parts that follow a list, if one is begun; blank lines between blocks are
`none`. -/
def gatherAfter : Option Series → List Part → List (Option Block)
  | s, [] => (s.map Series.parts).getD []
  | s, block b :: ps => (s.map Series.parts).getD [] ++ some b :: gatherAfter none ps
  | none, blank :: ps => none :: gatherAfter none ps
  | some s, blank :: ps => gatherAfter (some { s with blanks := s.blanks + 1 }) ps
  | none, item m _ b :: ps => gatherAfter (some (.start m b)) ps
  | some s, item m joined b :: ps =>
    if joined then gatherAfter (some (s.join m b)) ps
    else if s.signs.contains m.sign then gatherAfter (some (s.add m b)) ps
    else s.parts ++ gatherAfter (some (.start m b)) ps

def gather (ps : List Part) : List (Option Block) := gatherAfter none ps

def blocks (ps : List Part) : List Block := (gather ps).filterMap id

/-- The item that the parts behind a marker make. A blank line right behind the marker does not spread
it. -/
def toItem (ps : List Part) : Block :=
  let bs := gather ps
  .item (bs.head?.any (·.isNone)) (bs.tail.any (·.isNone)) (bs.filterMap id)

end Part

end MarkupBridge.Markdown
