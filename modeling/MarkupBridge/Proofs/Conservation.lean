import MarkupBridge.Proofs.Appending
import MarkupBridge.Proofs.Lists
import MarkupBridge.Proofs.Openings
import MarkupBridge.Proofs.Reading
import MarkupBridge.Proofs.Spans
import MarkupBridge.Registry

namespace MarkupBridge.Export
open Text Wiki

/-- What a block says when it is written. -/
def said (s : Setting) (depth : Nat) (b : Block) : Text :=
  letters marks (block s depth b .empty).text

/-- What an item of a list says; a list inside it is one level deeper. -/
def saidItem (s : Setting) (depth : Nat) (item : List Block) : Text :=
  item.flatMap fun b => said s (if Block.isList b then depth + 1 else depth) b

theorem Appends.letters_text {f : Draft → Draft} (h : Appends f) (d : Draft) :
    letters marks (f d).text = letters marks d.text ++ letters marks (f .empty).text := by
  rw [h d, Draft.append_text, letters_append]

theorem letters_block (s : Setting) (depth : Nat) (b : Block) (d : Draft) :
    letters marks (block s depth b d).text = letters marks d.text ++ said s depth b :=
  (block_appends s depth b).letters_text d

theorem letters_indentation (s : Setting) (depth : Nat) :
    letters marks (s.indentation depth) = [] :=
  letters_replicate (by decide) _

theorem letters_itemBlocks (s : Setting) (depth : Nat) (isOpen : Bool) (item : List Block)
    (d : Draft) : letters marks (itemBlocks s depth isOpen item d).text =
      letters marks d.text ++ saidItem s depth item := by
  induction item generalizing isOpen d with
  | nil => cases isOpen <;> simp [itemBlocks, saidItem]
  | cons b bs ih =>
    cases hb : Block.isList b <;> cases isOpen <;>
      simp [itemBlocks, saidItem, hb, ih, letters_block]

theorem letters_list (s : Setting) (depth : Nat) (marker : Marker) (items : List (List Block))
    (d : Draft) : letters marks (list s depth marker items d).text =
      letters marks d.text ++ items.flatMap (saidItem s depth) := by
  have hmarker : letters marks (listMarker marker) = [] := by cases marker <;> rfl
  induction items generalizing d with
  | nil => simp [list]
  | cons item items ih =>
    simp [list, ih, letters_itemBlocks, letters_indentation, hmarker]

theorem said_list (s : Setting) (depth : Nat) (marker : Marker) (items : List (List Block)) :
    said s depth (.list marker items) = items.flatMap (saidItem s depth) := by
  simp [said, block, letters_list]

theorem letters_quoted (s : Setting) (depth : Nat) (bs : List Block) (d : Draft) :
    letters marks (quoted s depth bs d).text =
      letters marks d.text ++ bs.flatMap (said s depth) := by
  induction bs generalizing d with
  | nil => simp [quoted]
  | cons b bs ih =>
    have hquote : letters marks ['>', ' '] = [] := rfl
    rw [quoted, (block_appends s depth b).capture_eq]
    simp only [ih, Draft.write_text, Draft.append_text, letters_append, hquote,
      letters_dropEndWhile_newline, letters_newline, List.nil_append, List.append_nil,
      List.append_assoc, List.flatMap_cons]
    rfl

theorem said_quote (s : Setting) (depth : Nat) (bs : List Block) :
    said s depth (.quote bs) = bs.flatMap (said s depth) := by
  simp [said, block, letters_quoted]

theorem letters_separated (s : Setting) (bs : List Block) (d : Draft) :
    letters marks (separated s bs d).text = letters marks d.text ++ bs.flatMap (said s 0) := by
  fun_induction separated s bs d with
  | case1 => simp
  | case2 b d => simp [letters_block]
  | case3 b bs d _ ih => simp [ih, letters_block]

theorem said_paragraph (s : Setting) (depth : Nat) {ls : List Text} (h : ∀ l ∈ ls, IsPlain l) :
    said s depth (.paragraph (ls.map fun l => Span.ofLine (trim l))) =
      ls.flatMap (letters marks) := by
  simp [said, block, letters_lines_trim s.resolver h]

theorem said_heading (s : Setting) (depth level : Nat) {t : Text} (h : IsPlain t) :
    said s depth (.heading level [Span.ofLine t]) = letters marks t := by
  have hlevel : letters marks (List.replicate level '#') = [] := letters_replicate (by decide) _
  have hspace : letters marks [' '] = [] := rfl
  rw [said, block]
  simp only [Draft.write_text, Draft.empty_text, lines, List.map_cons, List.map_nil, join,
    letters_append, hlevel, hspace, letters_line s.resolver h, letters_newline,
    List.nil_append, List.append_nil]

/-- A plain line opens a heading, a rule, a list or a quote, if it opens anything. -/
theorem plain_opening {line : Text} {o : Opening} (h : IsPlain line)
    (ho : Opening.read? line = some o) : (∃ level t, o = .heading level t) ∨ o = .rule ∨
      (∃ e, o = .entry e) ∨ o = .quote := by
  have hbrace : '\x7b' ∉ line := by
    intro hm
    obtain ⟨a, b, hab⟩ := List.append_of_mem hm
    exact h ['\x7b'] (by decide) ⟨a, b, by simp [hab]⟩
  have hfits := Opening.fits_of_read? ho
  cases o with
  | fence language => exact absurd hfits (by simp [Opening.Fits, Opening.isFence,
      h.not_startsWith ['\x60', '\x60', '\x60'] (by decide)])
  | rocket => exact absurd hfits (by simp [Opening.Fits, Opening.isRocket,
      h.not_startsWith ['=', '>'] (by decide)])
  | embed target => exact absurd hfits (by simp [Opening.Fits,
      h.not_startsWith ['<', '='] (by decide)])
  | heading level t => exact .inl ⟨level, t, rfl⟩
  | rule => exact .inr (.inl rfl)
  | entry e => exact .inr (.inr (.inl ⟨e, rfl⟩))
  | quote => exact .inr (.inr (.inr rfl))
  | table caption => exact absurd (Opening.mem_of_table? hfits) hbrace
  | image layout inside => exact absurd (Opening.mem_of_image? hfits) hbrace

theorem letters_heading {line t : Text} {level : Nat}
    (h : Opening.heading? line = some (level, t)) : letters marks line = letters marks t := by
  obtain ⟨r, rfl, rfl, -⟩ := Opening.eq_of_heading? h
  have hsigns : letters marks (List.replicate level '=') = [] := letters_replicate (by decide) _
  have hspace : letters marks [' '] = [] := rfl
  simp only [letters_append, letters_cons ' ' r, hsigns, hspace, letters_trim, List.nil_append]

theorem letters_rule {line : Text} (h : Opening.isRule line = true) : letters marks line = [] := by
  simp only [Opening.isRule, Bool.and_eq_true] at h
  rw [← letters_trimEnd]
  refine letters_eq_nil (List.all_eq_true.mpr fun c hc => ?_)
  rw [beq_iff_eq.mp (List.all_eq_true.mp h.2 c hc)]
  decide

theorem letters_entry {line : Text} {e : Entry} (h : Entry.read? line = some e) :
    letters marks line = letters marks e.text := by
  obtain ⟨t, rfl, ht⟩ := Entry.eq_of_read? h
  have htabs : letters marks (List.replicate e.depth '\t') = [] := letters_replicate (by decide) _
  have hsign : letters marks e.marker.sign = [] := by cases e.marker <;> rfl
  have hspace : letters marks [' '] = [] := rfl
  simp only [letters_append, letters_cons ' ' t, htabs, hsign, hspace, ht, letters_trim,
    List.nil_append]

theorem letters_unquote {line : Text} (h : Opening.isQuote line = true) :
    letters marks (Chunk.unquote line) = letters marks line := by
  obtain ⟨t, ht⟩ := Option.isSome_iff_exists.mp h
  have hquote : letters marks ['>'] = [] := rfl
  have hspace : letters marks [' '] = [] := rfl
  rw [after?_eq_some_iff.mp ht, letters_append, hquote, List.nil_append]
  show letters marks ((after? [' '] t).getD t) = _
  cases hs : after? [' '] t with
  | none => rfl
  | some u =>
    rw [after?_eq_some_iff.mp hs, letters_append, hspace, Option.getD_some, List.nil_append]

theorem letters_map_unquote {ls : List Text} (h : ∀ l ∈ ls, Opening.isQuote l = true) :
    (ls.map Chunk.unquote).flatMap (letters marks) = ls.flatMap (letters marks) := by
  induction ls with
  | nil => rfl
  | cons l ls ih =>
    rw [List.map_cons, List.flatMap_cons, letters_unquote (h l List.mem_cons_self),
      ih fun m hm => h m (List.mem_cons_of_mem _ hm), List.flatMap_cons]

theorem isPlain_heading {line t : Text} {level : Nat} (h : IsPlain line)
    (ht : Opening.heading? line = some (level, t)) : IsPlain t := by
  obtain ⟨r, rfl, rfl, -⟩ := Opening.eq_of_heading? ht
  refine h.of_isInfix ((trim_isInfix r).trans ?_)
  exact ((List.suffix_cons ' ' r).trans (List.suffix_append _ _)).isInfix

theorem isPlain_entry {line : Text} {e : Entry} (h : IsPlain line)
    (he : Entry.read? line = some e) : IsPlain e.text := by
  obtain ⟨t, rfl, ht⟩ := Entry.eq_of_read? he
  refine h.of_isInfix (ht ▸ (trim_isInfix t).trans ?_)
  exact ((List.suffix_cons ' ' t).trans (List.suffix_append _ _)).isInfix

theorem isPlain_unquote {line : Text} (h : IsPlain line) : IsPlain (Chunk.unquote line) := by
  refine h.of_isInfix (List.IsSuffix.trans ?_ (List.drop_suffix 1 line)).isInfix
  show (after? [' '] (line.drop 1)).getD (line.drop 1) <:+ line.drop 1
  cases hs : after? [' '] (line.drop 1) with
  | none => exact List.suffix_refl _
  | some u => exact ⟨[' '], (after?_eq_some_iff.mp hs).symm⟩

theorem isPlain_takeWhile {p : Text → Bool} {line : Text} {ls : List Text} (h : IsPlain line)
    (hls : ∀ l ∈ ls, IsPlain l) : ∀ l ∈ line :: ls.takeWhile p, IsPlain l := by
  intro l hl
  rcases List.mem_cons.mp hl with rfl | hl
  · exact h
  · exact hls l ((List.takeWhile_prefix _).subset hl)

theorem saidItem_paragraph (s : Setting) (depth : Nat) {e : Entry} (h : IsPlain e.text) :
    saidItem s depth e.paragraph = letters marks e.text := by
  unfold Entry.paragraph
  split
  · next hnil => simp [List.isEmpty_iff.mp hnil, saidItem]
  · simp [saidItem, Block.isList, said, block, lines, join, letters_line s.resolver h]

theorem saidItem_concat (s : Setting) (depth : Nat) (item : List Block) {b : Block}
    (hb : Block.isList b = true) :
    saidItem s depth (item ++ [b]) = saidItem s depth item ++ said s (depth + 1) b := by
  simp [saidItem, hb]

/-- A list says what its lines say, item by item. -/
theorem said_taken (s : Setting) (h : Takes least depth marker items item ls taken left)
    (hls : ∀ l ∈ ls, IsPlain l) (n : Nat) :
    said s n taken ++ left.flatMap (letters marks) =
      (items ++ [item]).flatMap (saidItem s n) ++ ls.flatMap (letters marks) := by
  -- What the items so far say stands in front of what the lines left to read say.
  induction h generalizing n with
  | ended => rw [said_list]
  | nested he _ _ hb _ ihb iht =>
    have hline := hls _ List.mem_cons_self
    have hls := fun l hl => hls l (List.mem_cons_of_mem _ hl)
    obtain ⟨more, rfl⟩ := hb.eq_list
    have hinner := ihb hls (n + 1)
    simp only [List.nil_append, List.flatMap_cons, List.flatMap_nil, List.append_nil,
      saidItem_paragraph s _ (isPlain_entry hline he)] at hinner
    rw [iht (fun l hl => hls l (hb.suffix.subset hl)) n, List.flatMap_cons, letters_entry he,
      ← hinner]
    simp [saidItem_concat s n _ (show Block.isList (.list _ _) = true from rfl)]
  | next he _ _ _ _ ih =>
    have hline := hls _ List.mem_cons_self
    have hls := fun l hl => hls l (List.mem_cons_of_mem _ hl)
    rw [ih hls n, List.flatMap_cons, letters_entry he, List.flatMap_append,
      ← saidItem_paragraph s n (isPlain_entry hline he)]
    simp

theorem flatMap_takeWhile_append (f : Text → Text) (p : Text → Bool) (line : Text)
    (ls : List Text) : (line :: ls.takeWhile p).flatMap f ++ (ls.dropWhile p).flatMap f =
      (line :: ls).flatMap f := by
  rw [← List.flatMap_append, List.cons_append, List.takeWhile_append_dropWhile]

/-- A chunk says what its lines say, once the documents inside it do. -/
theorem said_read (s : Setting) {line : Text} {ls : List Text} (h : IsPlain line)
    (hls : ∀ l ∈ ls, IsPlain l) (n : Nat)
    (inner : ∀ t ∈ (Chunk.read line ls).1.texts, IsPlain t →
      (Block.ofText t).flatMap (said s n) = letters marks t) :
    said s n (Chunk.read line ls).1.toBlock ++
      (Chunk.read line ls).2.flatMap (letters marks) = (line :: ls).flatMap (letters marks) := by
  cases ho : Opening.read? line with
  | none =>
    simp only [Chunk.read, ho, Chunk.toBlock, said_paragraph s n (isPlain_takeWhile h hls)]
    exact flatMap_takeWhile_append _ _ line ls
  | some o =>
    have hfits := Opening.fits_of_read? ho
    rcases plain_opening h ho with ⟨level, t, rfl⟩ | rfl | ⟨e, rfl⟩ | rfl
    · simp only [Chunk.read, ho, Chunk.toBlock, said_heading s n level (isPlain_heading h hfits)]
      rw [List.flatMap_cons, letters_heading hfits]
    · simp only [Chunk.read, ho, Chunk.toBlock]
      rw [List.flatMap_cons, letters_rule hfits]
      rfl
    · simp only [Chunk.read, ho, Chunk.toBlock]
      rw [takeList, said_taken s (takeItems_takes ..) hls, List.nil_append, List.flatMap_cons,
        List.flatMap_cons, saidItem_paragraph s n (isPlain_entry h hfits), letters_entry hfits,
        List.flatMap_nil, List.append_nil]
    · have hquotes : ∀ l ∈ line :: ls.takeWhile Opening.isQuote, Opening.isQuote l = true := by
        intro l hl
        rcases List.mem_cons.mp hl with rfl | hl
        · exact hfits
        · exact Chunk.of_mem_takeWhile hl
      have hinner := inner (joinLines ((line :: ls.takeWhile Opening.isQuote).map Chunk.unquote))
        (by simp [Chunk.read, ho, Chunk.texts]) (IsPlain.joinLines fun l hl => by
          obtain ⟨m, hm, rfl⟩ := List.mem_map.mp hl
          exact isPlain_unquote (isPlain_takeWhile h hls m hm))
      simp only [Chunk.read, ho, Chunk.toBlock, said_quote, hinner, letters_joinLines,
        letters_map_unquote hquotes]
      exact flatMap_takeWhile_append _ _ line ls

theorem said_all (s : Setting) {ls : List Text} (hls : ∀ l ∈ ls, IsPlain l) (n : Nat)
    (inner : ∀ c ∈ Chunk.all ls, ∀ t ∈ c.texts, IsPlain t →
      (Block.ofText t).flatMap (said s n) = letters marks t) :
    ((Chunk.all ls).map Chunk.toBlock).flatMap (said s n) = ls.flatMap (letters marks) := by
  fun_induction Chunk.all ls with
  | case1 => rfl
  | case2 line ls hb ih =>
    rw [ih (fun l hl => hls l (List.mem_cons_of_mem _ hl)) inner, List.flatMap_cons,
      letters_of_isBlankLine hb, List.nil_append]
  | case3 line ls hb ih =>
    have hls' := fun l hl => hls l (List.mem_cons_of_mem _ hl)
    rw [List.map_cons, List.flatMap_cons,
      ih (fun l hl => hls' l ((Chunk.read_suffix line ls).subset hl))
        (fun c hc => inner c (List.mem_cons_of_mem _ hc)),
      said_read s (hls line List.mem_cons_self) hls' n (inner _ List.mem_cons_self)]

/-- The blocks of a plain document say what its text says. -/
theorem said_ofText (s : Setting) {t : Text} (h : IsPlain t) (n : Nat) :
    (Block.ofText t).flatMap (said s n) = letters marks t := by
  rw [Block.ofText_eq, said_all s (fun l hl => h.of_isInfix (isInfix_of_mem_lines hl)) n,
    letters_lines]
  intro c hc u hu hplain
  have := Chunk.length_lt_of_mem_document hc hu
  exact said_ofText s hplain n
termination_by t.length

/-- A plain document in Markdown says what it said before: no text is lost, repeated or moved. -/
theorem letters_toMarkdown {t : Text} (h : IsPlain t) (options : Options) :
    letters marks (toMarkdown t options).text = letters marks t := by
  rw [toMarkdown, document, Draft.finish, letters_separated, said_ofText _ h]
  rfl

/-- A task and an item inside it in a quote, then a heading; styles are left open, and a backslash
is text in monospace and an escape outside it. -/
theorem letters_toMarkdown_quote :
    IsPlain "> *x **one\n> \t* ^^two \x60\\\x60 \\^\n\n= end".toList ∧
      letters marks
          (toMarkdown "> *x **one\n> \t* ^^two \x60\\\x60 \\^\n\n= end".toList .default).text =
        "onetwoend".toList :=
  have h : IsPlain "> *x **one\n> \t* ^^two \x60\\\x60 \\^\n\n= end".toList := by
    simp only [IsPlain, linkingMarks, String.reduceToList]
    decide
  ⟨h, (letters_toMarkdown h .default).trans (by decide +kernel)⟩

end MarkupBridge.Export
