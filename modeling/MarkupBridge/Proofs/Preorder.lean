import MarkupBridge.Wiki.Document

namespace MarkupBridge.Wiki.Block

mutual

/-- The blocks in a block at any depth. -/
def inside : Block → List Block
  | .list _ items => preorderItems items
  | .quote contents => preorder contents
  | .table _ rows => preorderRows rows
  | .image _ entries => preorderEntries entries
  | .heading _ _ | .paragraph _ | .code _ _ | .rule | .launchpad _ | .transclusion _
  | .unknown _ => []

def preorder : List Block → List Block
  | [] => []
  | b :: bs => b :: inside b ++ preorder bs

def preorderItems : List (List Block) → List Block
  | [] => []
  | item :: items => preorder item ++ preorderItems items

def preorderCells : List (Cell (List Block)) → List Block
  | [] => []
  | ⟨contents, _, _⟩ :: row => preorder contents ++ preorderCells row

def preorderRows : List (List (Cell (List Block))) → List Block
  | [] => []
  | row :: rows => preorderCells row ++ preorderRows rows

def preorderEntries : List (ImageEntry (List Block)) → List Block
  | [] => []
  | ⟨_, _, _, description⟩ :: entries => preorder description ++ preorderEntries entries

end

theorem preorder_eq (bs : List Block) : preorder bs = bs.flatMap fun b => b :: inside b := by
  induction bs with
  | nil => rw [preorder, List.flatMap_nil]
  | cons b bs ih => rw [preorder, ih, List.flatMap_cons]

theorem preorderItems_eq (items : List (List Block)) :
    preorderItems items = items.flatMap preorder := by
  induction items with
  | nil => rw [preorderItems, List.flatMap_nil]
  | cons item items ih => rw [preorderItems, ih, List.flatMap_cons]

theorem preorderCells_eq (row : List (Cell (List Block))) :
    preorderCells row = row.flatMap fun cell => preorder cell.contents := by
  induction row with
  | nil => rw [preorderCells, List.flatMap_nil]
  | cons cell row ih => rw [preorderCells, ih, List.flatMap_cons]

theorem preorderRows_eq (rows : List (List (Cell (List Block)))) :
    preorderRows rows = rows.flatMap preorderCells := by
  induction rows with
  | nil => rw [preorderRows, List.flatMap_nil]
  | cons row rows ih => rw [preorderRows, ih, List.flatMap_cons]

theorem preorderEntries_eq (entries : List (ImageEntry (List Block))) :
    preorderEntries entries = entries.flatMap fun e => preorder e.description := by
  induction entries with
  | nil => rw [preorderEntries, List.flatMap_nil]
  | cons e entries ih => rw [preorderEntries, ih, List.flatMap_cons]

end MarkupBridge.Wiki.Block
