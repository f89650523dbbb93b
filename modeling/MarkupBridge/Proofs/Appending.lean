import MarkupBridge.Export.Document

namespace MarkupBridge.Export
open Text Wiki

/-- One draft after another. -/
def Draft.append (d e : Draft) : Draft :=
  ⟨d.text ++ e.text, ⟨d.warnings.entries ++ e.warnings.entries⟩⟩

namespace Draft

@[simp] theorem append_text (d e : Draft) : (d.append e).text = d.text ++ e.text := rfl

@[simp] theorem append_empty (d : Draft) : d.append .empty = d := by
  simp [append, empty, Warnings.none]

theorem append_assoc (d e f : Draft) : (d.append e).append f = d.append (e.append f) := by
  simp [append]

@[simp] theorem write_text (t : Text) (d : Draft) : (d.write t).text = d.text ++ t := rfl

@[simp] theorem write_nil (d : Draft) : d.write [] = d := by simp [write]

theorem write_write (t u : Text) (d : Draft) : (d.write t).write u = d.write (t ++ u) := by
  simp [write]

@[simp] theorem empty_text : empty.text = [] := rfl

end Draft

/-- A rendering that adds to a draft and reads nothing of it. -/
def Appends (f : Draft → Draft) : Prop := ∀ d, f d = d.append (f .empty)

namespace Appends

theorem id : Appends fun d => d := fun d => d.append_empty.symm

theorem write (t : Text) : Appends (·.write t) := by
  intro d
  simp [Draft.write, Draft.append, Draft.empty, Warnings.none]

theorem warn (t : Text) : Appends (·.warn t) := by
  intro d
  simp [Draft.warn, Draft.append, Draft.empty, Warnings.none, Warnings.push]

theorem comp {f g : Draft → Draft} (hf : Appends f) (hg : Appends g) :
    Appends fun d => g (f d) := by
  intro d
  calc g (f d) = (f d).append (g .empty) := hg _
    _ = d.append ((f .empty).append (g .empty)) := by rw [hf d, Draft.append_assoc]
    _ = d.append (g (f .empty)) := by rw [← hg]

/-- Text set aside is what is written on an empty draft, and its warnings are kept. -/
theorem capture_eq {f : Draft → Draft} (hf : Appends f) (d : Draft) :
    d.capture f = ((f .empty).text, d.append ⟨[], (f .empty).warnings⟩) := by
  unfold Draft.capture
  rw [hf]
  simp [Draft.append]

theorem capture {f : Draft → Draft} {k : Text → Draft → Draft} (hf : Appends f)
    (hk : ∀ t, Appends (k t)) : Appends fun d => k (d.capture f).1 (d.capture f).2 := by
  intro d
  simp only [hf.capture_eq]
  rw [hk, Draft.append_assoc, ← hk]
  simp [Draft.append, Draft.empty, Warnings.none]

theorem foldl {f : α → Draft → Draft} (hf : ∀ a, Appends (f a)) (l : List α) :
    Appends fun d => l.foldl (fun d a => f a d) d := by
  induction l with
  | nil => exact .id
  | cons a l ih => exact (hf a).comp ih

theorem attr (name value : Text) : Appends (attr name value) :=
  (((write _).comp (write _)).comp (write _)).comp (write _)

theorem attr? (name : Text) (value : Option Text) : Appends (attr? name value) := by
  cases value with
  | none => exact .id
  | some v => exact attr name v

theorem caption (t : Option Text) : Appends (caption t) := by
  cases t with
  | none => exact .id
  | some t => exact ((write _).comp (write _)).comp (write _)

theorem launchpad (s : Setting) (rockets : List Rocket) : Appends (launchpad s rockets) := by
  have hrocket : ∀ r, Appends (rocket s r) := fun r =>
    ((((write _).comp (write _)).comp (write _)).comp (write _)).comp (write _)
  exact ((write _).comp (foldl hrocket _)).comp (write _)

end Appends

mutual

/-- Whatever a block is, it is added to the draft at hand and depends on nothing in it. -/
theorem block_appends (s : Setting) (depth : Nat) : (b : Block) → Appends (block s depth b)
  | .heading level ls => by intro d; simp only [block]; exact Appends.write _ d
  | .paragraph ls => by intro d; simp only [block]; exact Appends.write _ d
  | .code language contents => by intro d; simp only [block]; exact Appends.write _ d
  | .list marker items => by intro d; simp only [block]; exact list_appends s depth marker items d
  | .rule => by intro d; simp only [block]; exact Appends.write _ d
  | .quote contents => by intro d; simp only [block]; exact quoted_appends s depth contents d
  | .table title [] => by
    intro d
    simp only [block]
    exact (((Appends.write _).comp (.caption title)).comp (Appends.write _)) d
  | .table title (row :: rest) => by
    have hbody : ∀ rows, Appends (bodyRows s rows) → Appends fun d =>
        (bodyRows s rows (d.write "<tbody>\n".toList)).write "</tbody>\n".toList :=
      fun rows hrows => ((Appends.write _).comp hrows).comp (.write _)
    have hhead : Appends fun d => (cells s row (d.write "<thead>\n<tr>".toList)).write
        "</tr>\n</thead>\n".toList := ((Appends.write _).comp (cells_appends s row)).comp (.write _)
    have hopen := (Appends.write "<table>\n".toList).comp (.caption title)
    intro d
    simp only [block]
    split
    · split
      · exact ((hopen.comp hhead).comp (.write _)) d
      · exact (((hopen.comp hhead).comp (hbody rest (bodyRows_appends s rest))).comp (.write _)) d
    · exact ((hopen.comp (hbody _ (bodyRows_appends s (row :: rest)))).comp (.write _)) d
  | .image _ [] => by
    intro d
    simp only [block]
    exact (((Appends.write _).comp (images_appends s [])).comp (.write _)) d
  | .image _ [e] => by
    intro d
    simp only [block]
    exact Appends.capture (k := fun t d => d.write ("![".toList ++ trim t ++ "](".toList ++
      s.resolver.imageSource e.target ++ ")\n".toList)) (blocks_appends s 0 e.description)
      (fun t => .write _) d
  | .image _ (e :: f :: entries) => by
    intro d
    simp only [block]
    exact (((Appends.write _).comp (images_appends s (e :: f :: entries))).comp (.write _)) d
  | .launchpad rockets => by intro d; simp only [block]; exact Appends.launchpad s rockets d
  | .transclusion target => by
    intro d; simp only [block]; exact ((Appends.warn _).comp (.write _)) d
  | .unknown kind => by intro d; simp only [block]; exact Appends.write _ d

theorem blocks_appends (s : Setting) (depth : Nat) : (bs : List Block) → Appends (blocks s depth bs)
  | [] => by intro d; simp [blocks]
  | b :: bs => by
    intro d
    simp only [blocks]
    exact (block_appends s depth b).comp (blocks_appends s depth bs) d

theorem list_appends (s : Setting) (depth : Nat) (marker : Marker) :
    (items : List (List Block)) → Appends (list s depth marker items)
  | [] => by intro d; simp [list]
  | item :: items => by
    intro d
    simp only [list]
    exact ((((Appends.write _).comp (.write _)).comp (itemBlocks_appends s depth true item)).comp
      (list_appends s depth marker items)) d

theorem itemBlocks_appends (s : Setting) (depth : Nat) (isOpen : Bool) :
    (bs : List Block) → Appends (itemBlocks s depth isOpen bs)
  | [] => by
    intro d
    simp only [itemBlocks]
    split
    · exact Appends.write _ d
    · exact Appends.id d
  | b :: bs => by
    have hopen : Appends fun d => if isOpen then d.write ['\n'] else d := by
      cases isOpen
      · exact .id
      · exact .write _
    intro d
    simp only [itemBlocks]
    split
    · exact ((hopen.comp (block_appends s (depth + 1) b)).comp
        (itemBlocks_appends s depth false bs)) d
    · exact ((block_appends s depth b).comp (itemBlocks_appends s depth false bs)) d

theorem quoted_appends (s : Setting) (depth : Nat) : (bs : List Block) → Appends (quoted s depth bs)
  | [] => by intro d; simp [quoted]
  | b :: bs => by
    intro d
    simp only [quoted]
    exact Appends.capture (k := fun t d => quoted s depth bs
        (d.write (['>', ' '] ++ dropEndWhile (· == '\n') t ++ ['\n'])))
      (block_appends s depth b) (fun t => (Appends.write _).comp (quoted_appends s depth bs)) d

theorem bodyRows_appends (s : Setting) :
    (rows : List (List (Cell (List Block)))) → Appends (bodyRows s rows)
  | [] => by intro d; simp [bodyRows]
  | row :: rows => by
    intro d
    simp only [bodyRows]
    exact (((Appends.write _).comp (cells_appends s row)).comp (.write _)).comp
      (bodyRows_appends s rows) d

theorem cells_appends (s : Setting) : (row : List (Cell (List Block))) → Appends (cells s row)
  | [] => by intro d; simp [cells]
  | ⟨contents, colspan, header⟩ :: row => by
    intro d
    simp only [cells]
    exact (Appends.write _).comp (Appends.capture (k := fun t d => cells s row
        (d.write (trim t ++ ['<', '/'] ++ cellTag header ++ ['>'])))
      (blocks_appends s 0 contents) (fun t => (Appends.write _).comp (cells_appends s row))) d

theorem images_appends (s : Setting) :
    (entries : List (ImageEntry (List Block))) → Appends (images s entries)
  | [] => by intro d; simp [images]
  | ⟨target, width, height, description⟩ :: entries => by
    intro d
    simp only [images]
    exact ((((Appends.write _).comp (.attr _ _)).comp (.attr? _ width)).comp (.attr? _ height)).comp
      (Appends.capture (k := fun t d => images s entries
          ((attr? "alt".toList (nonempty? (trim t)) d).write ">\n".toList))
        (blocks_appends s 0 description)
        (fun t => ((Appends.attr? _ _).comp (.write _)).comp (images_appends s entries))) d

end

end MarkupBridge.Export
