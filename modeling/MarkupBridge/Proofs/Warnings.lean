import MarkupBridge.Proofs.Isolation
import MarkupBridge.Proofs.Preorder

namespace MarkupBridge

namespace Wiki.Block

/-- The target of a transclusion. -/
def transcluded? : Block → Option Text
  | .transclusion target => some target
  | _ => none

end Wiki.Block

namespace Export
open Text Wiki Block

/-- What is warned of for some blocks and nothing in them. -/
def warningsOf (bs : List Block) : List Text :=
  (bs.filterMap transcluded?).map transclusionWarning

@[simp] theorem warningsOf_nil : warningsOf [] = [] := rfl

@[simp] theorem warningsOf_append (bs cs : List Block) :
    warningsOf (bs ++ cs) = warningsOf bs ++ warningsOf cs := by
  simp [warningsOf]

theorem warningsOf_cons {b : Block} (h : transcluded? b = none) (bs : List Block) :
    warningsOf (b :: bs) = warningsOf bs := by
  simp [warningsOf, h]

namespace Draft

@[simp] theorem write_warnings (t : Text) (d : Draft) : (d.write t).warnings = d.warnings := rfl

@[simp] theorem capture_warnings (f : Draft → Draft) (d : Draft) :
    (d.capture f).2.warnings = (f { d with text := [] }).warnings := rfl

end Draft

@[simp] theorem attr_warnings (name value : Text) (d : Draft) :
    (attr name value d).warnings = d.warnings := rfl

@[simp] theorem attr?_warnings (name : Text) (value : Option Text) (d : Draft) :
    (attr? name value d).warnings = d.warnings := by
  cases value <;> rfl

@[simp] theorem caption_warnings (t : Option Text) (d : Draft) :
    (caption t d).warnings = d.warnings := by
  cases t <;> rfl

@[simp] theorem launchpad_warnings (s : Setting) (rockets : List Rocket) (d : Draft) :
    (launchpad s rockets d).warnings = d.warnings := by
  have hrockets : ∀ (rs : List Rocket) (d : Draft),
      (rs.foldl (fun d r => rocket s r d) d).warnings = d.warnings := by
    intro rs
    induction rs with
    | nil => exact fun _ => rfl
    | cons r rs ih => exact fun d => ih (rocket s r d)
  exact hrockets _ _

mutual

/-- A block warns of the transclusions in it, and of itself if it is one. -/
theorem block_warnings (s : Setting) (depth : Nat) : (b : Block) → (d : Draft) →
    (block s depth b d).warnings.entries = d.warnings.entries ++ warningsOf (b :: b.inside)
  | .heading _ _, d | .paragraph _, d | .code _ _, d | .rule, d | .launchpad _, d
  | .unknown _, d => by
    simp [block, inside, warningsOf, transcluded?]
  | .transclusion target, d => by
    simp [block, inside, warningsOf, transcluded?, Draft.warn]
  | .list marker items, d => by
    rw [block, inside, warningsOf_cons rfl]
    exact list_warnings s depth marker items d
  | .quote contents, d => by
    rw [block, inside, warningsOf_cons rfl]
    exact quoted_warnings s depth contents d
  | .table title [], d => by
    rw [inside, warningsOf_cons rfl]
    simp [block, preorderRows]
  | .table title (row :: rest), d => by
    rw [inside, preorderRows, warningsOf_cons rfl, warningsOf_append]
    simp only [block]
    split
    · split
      · next hrest =>
        simp [cells_warnings, List.isEmpty_iff.mp hrest, preorderRows]
      · simp [cells_warnings, bodyRows_warnings]
    · simp [bodyRows_warnings, preorderRows]
  | .image _ [], d => by
    rw [inside, warningsOf_cons rfl]
    simp [block, images_warnings s []]
  | .image _ [⟨target, width, height, description⟩], d => by
    rw [inside, warningsOf_cons rfl]
    simp [block, blocks_warnings s 0 description, preorderEntries]
  | .image _ (e :: f :: entries), d => by
    rw [inside, warningsOf_cons rfl]
    simp [block, images_warnings s (e :: f :: entries)]

theorem blocks_warnings (s : Setting) (depth : Nat) : (bs : List Block) → (d : Draft) →
    (blocks s depth bs d).warnings.entries = d.warnings.entries ++ warningsOf (preorder bs)
  | [], d => by
    simp [blocks, preorder]
  | b :: bs, d => by
    rw [blocks, blocks_warnings s depth bs, block_warnings s depth b, preorder, warningsOf_append,
      List.append_assoc]

theorem list_warnings (s : Setting) (depth : Nat) (marker : Marker) :
    (items : List (List Block)) → (d : Draft) →
    (list s depth marker items d).warnings.entries =
      d.warnings.entries ++ warningsOf (preorderItems items)
  | [], d => by
    simp [list, preorderItems]
  | item :: items, d => by
    simp [list, list_warnings s depth marker items, itemBlocks_warnings s depth true item,
      preorderItems]

theorem itemBlocks_warnings (s : Setting) (depth : Nat) (isOpen : Bool) :
    (bs : List Block) → (d : Draft) →
    (itemBlocks s depth isOpen bs d).warnings.entries =
      d.warnings.entries ++ warningsOf (preorder bs)
  | [], d => by
    cases isOpen <;> simp [itemBlocks, preorder]
  | b :: bs, d => by
    have hline : (if isOpen then d.write ['\n'] else d).warnings = d.warnings := by
      cases isOpen <;> rfl
    rw [itemBlocks, preorder, warningsOf_append, ← List.append_assoc]
    split
    · rw [itemBlocks_warnings s depth false bs, block_warnings s (depth + 1) b, hline]
    · rw [itemBlocks_warnings s depth false bs, block_warnings s depth b]

theorem quoted_warnings (s : Setting) (depth : Nat) : (bs : List Block) → (d : Draft) →
    (quoted s depth bs d).warnings.entries = d.warnings.entries ++ warningsOf (preorder bs)
  | [], d => by
    simp [quoted, preorder]
  | b :: bs, d => by
    simp only [quoted, quoted_warnings s depth bs, Draft.write_warnings, Draft.capture_warnings,
      block_warnings s depth b, preorder, warningsOf_append, List.append_assoc]

theorem bodyRows_warnings (s : Setting) : (rows : List (List (Cell (List Block)))) → (d : Draft) →
    (bodyRows s rows d).warnings.entries = d.warnings.entries ++ warningsOf (preorderRows rows)
  | [], d => by
    simp [bodyRows, preorderRows]
  | row :: rows, d => by
    simp [bodyRows, bodyRows_warnings s rows, cells_warnings s row, preorderRows]

theorem cells_warnings (s : Setting) : (row : List (Cell (List Block))) → (d : Draft) →
    (cells s row d).warnings.entries = d.warnings.entries ++ warningsOf (preorderCells row)
  | [], d => by
    simp [cells, preorderCells]
  | ⟨contents, _, _⟩ :: row, d => by
    simp [cells, cells_warnings s row, blocks_warnings s 0 contents, preorderCells]

theorem images_warnings (s : Setting) : (entries : List (ImageEntry (List Block))) → (d : Draft) →
    (images s entries d).warnings.entries =
      d.warnings.entries ++ warningsOf (preorderEntries entries)
  | [], d => by
    simp [images, preorderEntries]
  | ⟨_, _, _, description⟩ :: entries, d => by
    simp [images, images_warnings s entries, blocks_warnings s 0 description, preorderEntries]

end

/-- Every transclusion is warned of once and nothing else is, in the order of the document and
wherever in it the transclusion stands. -/
theorem document_warnings (s : Setting) (bs : List Block) :
    (document s bs).warnings = ((preorder bs).filterMap transcluded?).map fun target =>
      "Transclusion of '".toList ++ target
        ++ "' is not supported in Markdown and was replaced by a comment".toList := by
  show (separated s bs .empty).warnings.entries = warningsOf (preorder bs)
  rw [separated_warnings]
  induction bs with
  | nil => rfl
  | cons b bs ih =>
    have hb : (document s [b]).warnings = warningsOf (b :: b.inside) := block_warnings s 0 b .empty
    rw [List.flatMap_cons, hb, preorder, warningsOf_append, ← ih]
    rfl

end Export
end MarkupBridge
