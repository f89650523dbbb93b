import MarkupBridge.Wiki.Gallery
import MarkupBridge.Wiki.Outline
import MarkupBridge.Wiki.Row

namespace MarkupBridge.Wiki
open Text

/-- A block's lines taken together, with the documents inside it still unread. -/
inductive Chunk where
  | block (b : Block)
  | quote (contents : Text)
  | table (caption : Option Text) (rows : List (Row Text))
  | image (layout : Option Text) (images : List (ImageEntry Text))

namespace Chunk

/-- The documents inside a chunk. -/
def texts : Chunk → List Text
  | .block _ => []
  | .quote contents => [contents]
  | .table _ rows => rows.flatMap fun row => row.map (·.contents)
  | .image _ images => images.map (·.description)

/-- A line goes on with a paragraph unless it is blank or opens another block. -/
def inParagraph (line : Text) : Bool := !isBlankLine line && !Opening.startsBlock line

/-- A quoted line without its mark and the one space after it. -/
def unquote (line : Text) : Text :=
  let t := line.drop 1
  (after? [' '] t).getD t

def rocket (line : Text) : Rocket :=
  let link := Link.read (line.drop 2)
  ⟨link, link.address.isEmpty⟩

/-- The chunk that begins with `line`, which is not blank, and the lines after it. -/
def read (line : Text) (ls : List Text) : Chunk × List Text :=
  match Opening.read? line with
  | none =>
    (.block (.paragraph ((line :: ls.takeWhile inParagraph).map fun l => Span.ofLine (trim l))),
      ls.dropWhile inParagraph)
  | some (.fence language) =>
    (.block (.code language ((ls.takeWhile (!Opening.isFence ·)).flatMap (· ++ ['\n']))),
      (ls.dropWhile (!Opening.isFence ·)).drop 1)
  | some .rocket =>
    (.block (.launchpad ((line :: ls.takeWhile Opening.isRocket).map rocket)),
      ls.dropWhile Opening.isRocket)
  | some (.embed target) => (.block (.transclusion target), ls)
  | some (.heading level t) => (.block (.heading level [Span.ofLine t]), ls)
  | some .rule => (block .rule, ls)
  | some (.entry e) =>
    let (b, rest) := takeList e ls
    (.block b, rest)
  | some .quote =>
    (.quote (joinLines ((line :: ls.takeWhile Opening.isQuote).map unquote)),
      ls.dropWhile Opening.isQuote)
  | some (.table caption) =>
    let (body, rest) := bracedBody [] ls
    (.table caption (Row.read body), rest)
  | some (.image layout inside) =>
    let (body, rest) := bracedBody inside ls
    (.image layout (Gallery.read body), rest)

theorem bracedBody_suffix (inside : Text) (ls : List Text) : (bracedBody inside ls).2 <:+ ls :=
  List.drop_suffix _ _

/-- A chunk is taken off the front of the lines. -/
theorem read_suffix (line : Text) (ls : List Text) : (read line ls).2 <:+ ls := by
  unfold read
  split
  case h_2 => exact (List.drop_suffix _ _).trans (List.dropWhile_suffix _)
  case h_7 => exact takeList_suffix _ _
  case h_9 => exact bracedBody_suffix _ _
  case h_10 => exact bracedBody_suffix _ _
  all_goals first | exact List.dropWhile_suffix _ | exact List.suffix_refl _

/-- The chunks of a document's lines. -/
def all : List Text → List Chunk
  | [] => []
  | line :: ls =>
    if isBlankLine line then all ls
    else (read line ls).1 :: all (read line ls).2
termination_by ls => ls.length
decreasing_by
  · simp
  · exact Nat.lt_succ_of_le (read_suffix line ls).length_le

theorem of_mem_takeWhile {p : α → Bool} {l : List α} {a : α} (h : a ∈ l.takeWhile p) :
    p a = true := List.all_eq_true.1 (List.all_takeWhile (p := p) (l := l)) a h

theorem ne_nil_of_isQuote {line : Text} (h : Opening.isQuote line = true) : line ≠ [] := by
  rintro rfl; simp [Opening.isQuote, startsWith, after?] at h

theorem length_unquote_lt {line : Text} (h : line ≠ []) : (unquote line).length < line.length := by
  cases line with
  | nil => exact absurd rfl h
  | cons c t =>
    show ((after? [' '] t).getD t).length < _
    cases ha : after? [' '] t with
    | none => simp
    | some r =>
      rw [after?_eq_some_iff.1 ha]
      simp only [Option.getD_some, List.length_cons, List.length_append]
      omega

theorem weight_unquote_le {ls : List Text} (h : ∀ l ∈ ls, Opening.isQuote l = true) :
    weight (ls.map unquote) + ls.length ≤ weight ls := by
  induction ls with
  | nil => simp
  | cons l ls ih =>
    have := length_unquote_lt (ne_nil_of_isQuote (h l (by simp)))
    have := ih fun l hl => h l (by simp [hl])
    simp only [List.map_cons, weight_cons, List.length_cons]
    omega

theorem isQuote_of_read? {line : Text} (h : Opening.read? line = some .quote) :
    Opening.isQuote line = true := by
  unfold Opening.read? at h
  repeat' split at h
  all_goals simp_all

theorem ne_nil_of_read? {line : Text} {o : Opening} (h : Opening.read? line = some o) :
    line ≠ [] := by
  rintro rfl
  rw [show Opening.read? [] = none by decide] at h
  cases h

theorem length_inside_lt {line inside : Text} {layout : Option Text}
    (h : Opening.read? line = some (.image layout inside)) : inside.length < line.length := by
  have hi : Opening.image? line = some (layout, inside) := by
    unfold Opening.read? at h
    repeat' split at h
    all_goals simp_all
  simp only [Opening.image?, Option.bind_eq_some_iff, Option.ite_none_right_eq_some] at hi
  obtain ⟨⟨a, b⟩, ⟨r, hr, hb⟩, -, he⟩ := hi
  simp only [Option.some.injEq, Prod.mk.injEq] at he
  obtain ⟨-, rfl⟩ := he
  have h₁ := congrArg List.length (after?_eq_some_iff.1 hr)
  have h₂ := congrArg List.length (eq_of_cutChar? hb)
  have h₃ := length_dropWhile_le isBlank line
  simp only [trimStart, List.length_append, List.length_cons] at h₁ h₂
  have : "img".toList.length = 3 := rfl
  omega

/-- A document inside a chunk is shorter than the chunk's document. -/
theorem length_lt_of_mem_read {line : Text} {ls : List Text} {t : Text}
    (h : t ∈ (read line ls).1.texts) : t.length + 1 < weight (line :: ls) := by
  unfold read at h
  rw [weight_cons]
  split at h <;> simp only [texts, List.not_mem_nil, List.mem_singleton] at h
  case h_8 ho =>
    subst h
    have hq : ∀ l ∈ line :: ls.takeWhile Opening.isQuote, Opening.isQuote l = true := by
      intro l hl
      rcases List.mem_cons.1 hl with rfl | hl
      · exact isQuote_of_read? ho
      · exact of_mem_takeWhile hl
    have h₁ := weight_unquote_le hq
    have h₂ := Row.weight_takeWhile_add Opening.isQuote ls
    rw [length_joinLines]
    simp only [weight_cons, List.length_cons] at h₁
    have h₃ : 0 < weight ((line :: ls.takeWhile Opening.isQuote).map unquote) := by
      simp only [List.map_cons, weight_cons]; omega
    omega
  case h_9 ho =>
    obtain ⟨row, hr, hc⟩ := List.mem_flatMap.1 h
    obtain ⟨cell, hm, rfl⟩ := List.mem_map.1 hc
    have h₁ := Row.length_read_le hr hm
    have h₂ := (length_bracedBody_le [] ls).1
    have h₃ := List.length_pos_iff.2 (ne_nil_of_read? ho)
    simp only [List.length_nil] at h₂
    omega
  case h_10 _ inside ho =>
    obtain ⟨e, he, rfl⟩ := List.mem_map.1 h
    have h₁ := Gallery.length_read_le he
    have h₂ := (length_bracedBody_le inside ls).1
    have h₃ := length_inside_lt ho
    omega

theorem weight_read_le (line : Text) (ls : List Text) : weight (read line ls).2 ≤ weight ls := by
  obtain ⟨taken, h⟩ := read_suffix line ls
  have := congrArg weight h
  simp only [weight_append] at this ⊢
  omega

/-- A document inside a chunk is shorter than the lines it was read from. -/
theorem length_lt_of_mem_all {ls : List Text} {c : Chunk} (hc : c ∈ all ls) {t : Text}
    (ht : t ∈ c.texts) : t.length + 1 < weight ls := by
  fun_induction all ls with
  | case1 => simp at hc
  | case2 line ls _ ih => have := ih hc; rw [weight_cons]; omega
  | case3 line ls _ ih =>
    rcases List.mem_cons.1 hc with rfl | hc
    · exact length_lt_of_mem_read ht
    · have := ih hc
      have := weight_read_le line ls
      rw [weight_cons]
      omega

theorem length_lt_of_mem_document {text : Text} {c : Chunk} (hc : c ∈ all (lines text)) {t : Text}
    (ht : t ∈ c.texts) : t.length < text.length := by
  have h₁ := length_lt_of_mem_all hc ht
  have h₂ := weight_lines_le text
  omega

end Chunk

/-- The blocks of a document. -/
def Block.ofText (text : Text) : List Block :=
  (Chunk.all (lines text)).attach.map fun ⟨c, h⟩ => match c, h with
    | .block b, _ => b
    | .quote contents, _ => .quote (ofText contents)
    | .table caption rows, _ =>
      .table caption (rows.attach.map fun ⟨row, _⟩ => row.attach.map fun ⟨cell, _⟩ =>
        { cell with contents := ofText cell.contents })
    | .image layout images, _ =>
      .image layout (images.attach.map fun ⟨e, _⟩ => { e with description := ofText e.description })
termination_by text.length
decreasing_by
  · exact Chunk.length_lt_of_mem_document ‹_› (by simp [Chunk.texts])
  · exact Chunk.length_lt_of_mem_document ‹Chunk.table _ _ ∈ _›
      (List.mem_flatMap.2 ⟨row, ‹_›, List.mem_map.2 ⟨cell, ‹_›, rfl⟩⟩)
  · exact Chunk.length_lt_of_mem_document ‹Chunk.image _ _ ∈ _› (List.mem_map.2 ⟨e, ‹_›, rfl⟩)

end MarkupBridge.Wiki
