import MarkupBridge.Proofs.Lists
import MarkupBridge.Proofs.Reading

namespace MarkupBridge

namespace Text

theorem ne_nil_of_isBlankLine {l : Text} (h : isBlankLine l = false) : l ≠ [] := by
  rintro rfl
  cases h

/-- Lines at the front of a text are read back as they are. -/
theorem lines_joinLines_append {ls : List Text} (h : ∀ l ∈ ls, IsLine l ∧ l ≠ [])
    (more : List Text) : lines (joinLines (ls ++ more)) = ls ++ lines (joinLines more) := by
  have hbreak : ∀ l ∈ ls, '\n' ∉ l := fun l hl => (h l hl).1.unbroken
  cases more with
  | nil =>
    have hlast : ls.getLast? ≠ some [] := fun hl => (h [] (List.mem_of_getLast? hl)).2 rfl
    rw [List.append_nil, lines_joinLines (fun l hl => (h l hl).1) hlast]
    exact (List.append_nil ls).symm
  | cons m ms =>
    rw [joinLines_append, lines_endedLines_append hbreak,
      List.map_congr_left fun l hl => (h l hl).1.dropReturn, List.map_id']

/-- The first line of joined lines is the first one of them, up to a carriage return at its end. -/
theorem head?_lines_joinLines {ls : List Text} (h : ∀ l ∈ ls.head?, '\n' ∉ l) :
    ∀ l ∈ (lines (joinLines ls)).head?, ∃ m ∈ ls.head?, l = m ∨ l = dropReturn m := by
  intro l hl
  cases ls with
  | nil => cases hl
  | cons m ms =>
    refine ⟨m, rfl, ?_⟩
    have hm := h m rfl
    cases ms with
    | nil =>
      have hlines : lines (joinLines [m]) = endLines [m] := by
        rw [lines, joinLines, split_of_not_mem hm]
      rw [hlines, endLines] at hl
      split at hl
      · cases hl
      · exact .inl (Option.some.inj hl).symm
    | cons n ns =>
      rw [joinLines, lines_append hm] at hl
      · exact .inr (Option.some.inj hl).symm
      · exact List.cons_ne_nil n ns

end Text

namespace Wiki
open Text

namespace Chunk

theorem inParagraph_eq_false {line : Text} :
    inParagraph line = false ↔ isBlankLine line = true ∨ Opening.startsBlock line = true := by
  rw [inParagraph]
  cases isBlankLine line <;> cases Opening.startsBlock line <;> simp

/-- A carriage return at its end does not make a line go on with a paragraph. -/
theorem inParagraph_dropReturn {line : Text} (h : inParagraph line = false) :
    inParagraph (dropReturn line) = false := by
  rw [inParagraph_eq_false] at h ⊢
  rcases h with hblank | hstarts
  · refine .inl (List.all_eq_true.mpr fun c hc => ?_)
    exact List.all_eq_true.mp hblank c ((dropReturn_isPrefix line).subset hc)
  · exact .inr (Opening.startsBlock_dropReturn hstarts)

/-- A chunk is a paragraph exactly if its first line opens no block. -/
theorem toBlock_read_iff (line : Text) (ls : List Text) :
    (∃ ss, (read line ls).1.toBlock = .paragraph ss) ↔ Opening.startsBlock line = false := by
  constructor
  · rintro ⟨ss, hss⟩
    rw [← Opening.isSome_read?]
    cases ho : Opening.read? line with
    | none => rfl
    | some o =>
      cases o with
      | entry e =>
        obtain ⟨items, hlist⟩ := (takeItems_takes 0 e.depth e.marker [] e.paragraph ls).eq_list
        simp [read, ho, takeList, hlist, toBlock] at hss
      | _ => simp [read, ho, toBlock] at hss
  · intro h
    simp only [read, Opening.read?_eq_none h]
    exact ⟨_, rfl⟩

end Chunk

/-- A paragraph takes lines up to a blank one or to one that opens a block, and what comes after it
is a document of its own. A line that is not blank begins a paragraph exactly if it opens no
block. -/
theorem ofText_paragraph_startsBlock :
    (∀ ls more : List Text, ls ≠ [] →
      (∀ l ∈ ls, IsLine l ∧ isBlankLine l = false ∧ Opening.startsBlock l = false) →
      (∀ l ∈ more.head?, '\n' ∉ l ∧ (isBlankLine l = true ∨ Opening.startsBlock l = true)) →
      Block.ofText (joinLines (ls ++ more)) =
        .paragraph (ls.map fun l => Span.ofLine (trim l)) :: Block.ofText (joinLines more)) ∧
    ∀ (l : Text) (more : List Text), IsLine l → isBlankLine l = false →
      ((∃ ss, (Block.ofText (joinLines (l :: more))).head? = some (.paragraph ss)) ↔
        Opening.startsBlock l = false) := by
  constructor
  · intro ls more hne hls hmore
    cases ls with
    | nil => exact absurd rfl hne
    | cons l ls =>
      obtain ⟨-, hblank, hstarts⟩ := hls l List.mem_cons_self
      have hgoes : ∀ m ∈ ls, Chunk.inParagraph m = true := fun m hm => by
        obtain ⟨-, hmblank, hmstarts⟩ := hls m (List.mem_cons_of_mem l hm)
        simp [Chunk.inParagraph, hmblank, hmstarts]
      have hends : ∀ m ∈ (lines (joinLines more)).head?, Chunk.inParagraph m = false := by
        intro m hm
        obtain ⟨first, hfirst, he⟩ :=
          head?_lines_joinLines (fun m hm => (hmore m hm).1) m hm
        have hstop := Chunk.inParagraph_eq_false.mpr (hmore first hfirst).2
        rcases he with rfl | rfl
        · exact hstop
        · exact Chunk.inParagraph_dropReturn hstop
      have hlines : ∀ m ∈ l :: ls, IsLine m ∧ m ≠ [] := fun m hm => by
        obtain ⟨hline, hmblank, -⟩ := hls m hm
        exact ⟨hline, ne_nil_of_isBlankLine hmblank⟩
      rw [Block.ofText_eq, lines_joinLines_append hlines, List.cons_append,
        Chunk.map_all hblank (Chunk.read_paragraph hstarts hgoes hends), Block.ofText_eq]
      rfl
  · intro l more hline hblank
    have hlines : ∀ m ∈ [l], IsLine m ∧ m ≠ [] := fun m hm => by
      rw [List.mem_singleton.mp hm]
      exact ⟨hline, ne_nil_of_isBlankLine hblank⟩
    have hfront := lines_joinLines_append hlines more
    rw [List.singleton_append, List.singleton_append] at hfront
    rw [Block.ofText_eq, hfront, Chunk.all_cons hblank, List.map_cons, List.head?_cons,
      ← Chunk.toBlock_read_iff l (lines (joinLines more))]
    simp only [Option.some.injEq]

/-- An asterisk without a space and an image with two words for its layout open no block, four
hyphens do. -/
theorem ofText_paragraph_startsBlock_rule :
    let ls : List Text := ["*a".toList, "img b c \x7b".toList]
    let more : List Text := ["----".toList, "d".toList]
    ls ≠ [] ∧ (∀ l ∈ ls, IsLine l ∧ isBlankLine l = false ∧ Opening.startsBlock l = false) ∧
      (∀ l ∈ more.head?, '\n' ∉ l ∧ (isBlankLine l = true ∨ Opening.startsBlock l = true)) ∧
      Block.ofText (joinLines (ls ++ more)) =
        .paragraph (ls.map fun l => Span.ofLine (trim l)) :: Block.ofText (joinLines more) ∧
      IsLine "----".toList ∧ isBlankLine "----".toList = false ∧
      ¬ ∃ ss, (Block.ofText (joinLines more)).head? = some (.paragraph ss) := by
  intro ls more
  have hline : ∀ l ∈ ls, IsLine l ∧ isBlankLine l = false ∧ Opening.startsBlock l = false := by
    have hall : ∀ l ∈ ls, ('\n' ∉ l ∧ l.getLast? ≠ some '\r') ∧ isBlankLine l = false ∧
        Opening.startsBlock l = false := by decide
    exact fun l hl => ⟨⟨(hall l hl).1.1, (hall l hl).1.2⟩, (hall l hl).2⟩
  have hmore : ∀ l ∈ more.head?,
      '\n' ∉ l ∧ (isBlankLine l = true ∨ Opening.startsBlock l = true) := by decide
  have hrule : IsLine "----".toList := ⟨by decide, by decide⟩
  refine ⟨by decide, hline, hmore, ofText_paragraph_startsBlock.1 ls more (by decide) hline hmore,
    hrule, by decide, fun hparagraph => ?_⟩
  have hstarts := (ofText_paragraph_startsBlock.2 _ ["d".toList] hrule (by decide)).mp hparagraph
  cases hstarts

end Wiki

namespace Text

theorem isSuffix_join {mark l : Text} {ls : List Text} (h : ls.getLast? = some l) :
    l <:+ join mark ls := by
  induction ls with
  | nil => cases h
  | cons m ms ih =>
    cases ms with
    | nil =>
      cases h
      exact List.suffix_refl _
    | cons n ns => exact (ih h).trans (List.suffix_append _ _)

/-- An empty line after a text, and another one if a line feed ends the text. -/
theorem lines_append_blank {a : Text} (h : a.getLast? ≠ some '\r') (b : Text) :
    ∃ blanks, blanks ≠ [] ∧ (∀ l ∈ blanks, l = []) ∧
      lines (a ++ ['\n', '\n'] ++ b) = lines a ++ (blanks ++ lines b) := by
  have htext : a ++ ['\n', '\n'] ++ b = endedLines (split '\n' a ++ [[]]) ++ b := by
    rw [endedLines_append, endedLines_split]
    simp
  have hbreak : ∀ l ∈ split '\n' a ++ [[]], '\n' ∉ l := by
    intro l hl
    rcases List.mem_append.mp hl with hl | hl
    · exact not_mem_of_mem_split hl
    · rw [List.mem_singleton.mp hl]
      exact List.not_mem_nil
  have hlast : ∀ l ∈ (split '\n' a).getLast?, l.getLast? ≠ some '\r' := by
    intro l hl hr
    have hsuffix : l <:+ a := join_split '\n' a ▸ isSuffix_join hl
    obtain ⟨before, rfl⟩ := hsuffix
    have hne : l ≠ [] := by
      rintro rfl
      cases hr
    exact h ((getLast?_append_of_ne_nil before hne).trans hr)
  have hlines : lines (a ++ ['\n', '\n'] ++ b) =
      (split '\n' a).map dropReturn ++ ([[]] ++ lines b) := by
    rw [htext, lines_endedLines_append hbreak, List.map_append, List.append_assoc]
    rfl
  rcases map_dropReturn_eq_endLines hlast with he | he
  · exact ⟨[[]], List.cons_ne_nil _ _, by simp, hlines.trans (congrArg (· ++ _) he)⟩
  · refine ⟨[[], []], List.cons_ne_nil _ _, by simp, ?_⟩
    rw [hlines, he, List.append_assoc]
    rfl

end Text

namespace Wiki
open Text

theorem takeList_append (e : Entry) (ls : List Text) {rest : List Text} (hrest : Parted rest) :
    takeList e (ls ++ rest) = ((takeList e ls).1, (takeList e ls).2 ++ rest) := by
  have hnone : ∀ l ∈ rest.head?, Entry.read? l = none := fun l hl => hrest l hl ▸ rfl
  exact takeList_eq_of_takes ((takeItems_takes 0 e.depth e.marker [] e.paragraph ls).append hnone)

/-- Whether an open brace is closed in a text: not all of the text is inside. -/
def ClosesBrace (t : Text) : Prop := (inBraces 1 t).1 ≠ t

instance : DecidablePred ClosesBrace := fun _ => inferInstanceAs (Decidable (_ ≠ _))

/-- What comes after the brace that closes has no part in what is inside. -/
theorem inBraces_of_closed {depth : Nat} {t : Text} (h : (inBraces depth t).1 ≠ t) (u : Text) :
    inBraces depth (t ++ u) = ((inBraces depth t).1, (inBraces depth t).2 ++ u) := by
  induction t generalizing depth with
  | nil => exact absurd rfl h
  | cons c t ih =>
    rw [List.cons_append, inBraces, inBraces]
    rw [inBraces] at h
    split
    · rfl
    · next hc =>
      rw [if_neg hc] at h
      have hrest := ih fun he => h (congrArg (c :: ·) he)
      simp only [hrest]

theorem inBraces_isPrefix (depth : Nat) (t : Text) : (inBraces depth t).1 <+: t := by
  induction t generalizing depth with
  | nil => exact List.prefix_refl _
  | cons c t ih =>
    rw [inBraces]
    split
    · exact List.nil_prefix
    · exact (List.prefix_cons_inj c).mpr (ih _)

/-- A body ends with the lines it was read from at the latest. -/
theorem count_bracedBody_le {inside : Text} {ls : List Text}
    (hbreak : ∀ l ∈ inside :: ls, '\n' ∉ l) : (bracedBody inside ls).1.count '\n' ≤ ls.length :=
  count_joinLines hbreak ▸ (inBraces_isPrefix 1 _).sublist.count_le '\n'

/-- The lines after a body that is closed have no part in it. -/
theorem bracedBody_of_closed {inside : Text} {ls : List Text}
    (hbreak : ∀ l ∈ inside :: ls, '\n' ∉ l)
    (h : ClosesBrace (joinLines (inside :: ls))) (rest : List Text) :
    bracedBody inside (ls ++ rest) =
      ((bracedBody inside ls).1, (bracedBody inside ls).2 ++ rest) := by
  cases rest with
  | nil => rw [List.append_nil, List.append_nil]
  | cons m ms =>
    have hjoin : joinLines (inside :: (ls ++ m :: ms)) =
        joinLines (inside :: ls) ++ '\n' :: joinLines (m :: ms) := by
      rw [← List.cons_append, joinLines_append, endedLines_eq_joinLines (List.cons_ne_nil _ _),
        List.append_assoc]
      rfl
    have hcount : (inBraces 1 (joinLines (inside :: ls))).1.count '\n' ≤ ls.length :=
      count_bracedBody_le hbreak
    simp only [bracedBody, hjoin, inBraces_of_closed h, List.drop_append_of_le_length hcount]

theorem unbroken_nil {line : Text} {ls : List Text} (hbreak : ∀ l ∈ line :: ls, '\n' ∉ l) :
    ∀ l ∈ [] :: ls, '\n' ∉ l :=
  List.forall_mem_cons.mpr ⟨List.not_mem_nil, (List.forall_mem_cons.mp hbreak).2⟩

theorem unbroken_inside {line inside : Text} {layout : Option Text} {ls : List Text}
    (hbreak : ∀ l ∈ line :: ls, '\n' ∉ l) (h : Opening.read? line = some (.image layout inside)) :
    ∀ l ∈ inside :: ls, '\n' ∉ l := by
  obtain ⟨hline, hls⟩ := List.forall_mem_cons.mp hbreak
  have hsuffix := Opening.inside_isSuffix (Opening.fits_of_read? h)
  exact List.forall_mem_cons.mpr ⟨fun hm => hline (hsuffix.subset hm), hls⟩

namespace Chunk

/-- The lines after the first one end what it opens: a fence has its other fence among them, a
brace the brace that closes it. -/
def EndsIn (line : Text) (ls : List Text) : Prop :=
  match Opening.read? line with
  | some (.fence _) => ∃ l ∈ ls, Opening.isFence l = true
  | some (.table _) => ClosesBrace (joinLines ([] :: ls))
  | some (.image _ inside) => ClosesBrace (joinLines (inside :: ls))
  | _ => True

/-- Lines that are read without coming to their end inside a fence or a brace. -/
inductive Closed : List Text → Prop
  | nil : Closed []
  | blank {line : Text} {ls : List Text} : isBlankLine line = true → Closed ls →
    Closed (line :: ls)
  | chunk {line : Text} {ls : List Text} : isBlankLine line = false → EndsIn line ls →
    Closed (read line ls).2 → Closed (line :: ls)

/-- A run that ends among lines does not go on after them. -/
theorem stops_of_dropWhile_ne_nil {p : Text → Bool} {ls : List Text} (h : ls.dropWhile p ≠ [])
    (rest : List Text) : ∀ l ∈ (ls.dropWhile p ++ rest).head?, p l = false := by
  intro l hl
  cases hdrop : ls.dropWhile p with
  | nil => exact absurd hdrop h
  | cons m ms =>
    rw [hdrop] at hl
    cases hl
    have hnot := List.head?_dropWhile_not p ls
    rw [hdrop] at hnot
    exact hnot

/-- A run that an empty line ends is the same before such a line. -/
theorem takeWhile_append_parted {p : Text → Bool} (hp : p [] = false) (ls : List Text)
    {rest : List Text} (hrest : Parted rest) :
    (ls ++ rest).takeWhile p = ls.takeWhile p ∧
      (ls ++ rest).dropWhile p = ls.dropWhile p ++ rest := by
  by_cases hnil : ls.dropWhile p = []
  · exact takeWhile_append_of_dropWhile (by rw [hnil]; exact hrest.stops hp)
  · exact takeWhile_append_of_dropWhile (stops_of_dropWhile_ne_nil hnil rest)

theorem read_append {line : Text} {ls : List Text} (hbreak : ∀ l ∈ line :: ls, '\n' ∉ l)
    (h : EndsIn line ls) {rest : List Text} (hrest : Parted rest) :
    read line (ls ++ rest) = ((read line ls).1, (read line ls).2 ++ rest) := by
  unfold EndsIn at h
  cases ho : Opening.read? line with
  | none =>
    obtain ⟨htake, hdrop⟩ := takeWhile_append_parted (p := inParagraph) rfl ls hrest
    simp only [read, ho, htake, hdrop]
  | some o =>
    rw [ho] at h
    cases o with
    | fence language =>
      obtain ⟨m, hm, hfence⟩ := h
      have hne : ls.dropWhile (!Opening.isFence ·) ≠ [] :=
        List.ne_nil_of_mem (mem_dropWhile (p := (!Opening.isFence ·)) (by simp [hfence]) hm)
      obtain ⟨l, after, hstop⟩ := List.exists_cons_of_ne_nil hne
      obtain ⟨htake, hdrop⟩ := takeWhile_append_of_dropWhile (stops_of_dropWhile_ne_nil hne rest)
      simp only [read, ho, htake, hdrop, hstop, List.cons_append, List.drop_one, List.tail_cons]
    | rocket =>
      obtain ⟨htake, hdrop⟩ := takeWhile_append_parted (p := Opening.isRocket) rfl ls hrest
      simp only [read, ho, htake, hdrop]
    | embed target => simp only [read, ho]
    | heading level t => simp only [read, ho]
    | rule => simp only [read, ho]
    | entry e => simp only [read, ho, takeList_append e ls hrest]
    | quote =>
      obtain ⟨htake, hdrop⟩ := takeWhile_append_parted (p := Opening.isQuote) rfl ls hrest
      simp only [read, ho, htake, hdrop]
    | table caption => simp only [read, ho, bracedBody_of_closed (unbroken_nil hbreak) h]
    | image layout inside =>
      simp only [read, ho, bracedBody_of_closed (unbroken_inside hbreak ho) h]

theorem Closed.all_append {ls : List Text} (h : Closed ls) (hbreak : ∀ l ∈ ls, '\n' ∉ l)
    {rest : List Text} (hrest : Parted rest) : all (ls ++ rest) = all ls ++ all rest := by
  induction h with
  | nil => rw [all_nil, List.nil_append, List.nil_append]
  | @blank line ls hblank _ ih =>
    rw [List.cons_append, all_blank hblank, all_blank hblank,
      ih fun l hl => hbreak l (List.mem_cons_of_mem line hl)]
  | @chunk line ls hblank hends _ ih =>
    have hleft : ∀ l ∈ (read line ls).2, '\n' ∉ l := fun l hl =>
      hbreak l (List.mem_cons_of_mem line ((read_suffix line ls).subset hl))
    rw [List.cons_append, all_cons hblank, all_cons hblank, read_append hbreak hends hrest,
      ih hleft, List.cons_append]

theorem all_blanks {blanks : List Text} (h : ∀ l ∈ blanks, l = []) (ls : List Text) :
    all (blanks ++ ls) = all ls := by
  induction blanks with
  | nil => rfl
  | cons l blanks ih =>
    have hl : isBlankLine l = true := h l List.mem_cons_self ▸ rfl
    rw [List.cons_append, all_blank hl, ih fun m hm => h m (List.mem_cons_of_mem l hm)]

end Chunk

/-- Documents with an empty line between them are read each on its own. -/
theorem ofText_append {a : Text} (hreturn : a.getLast? ≠ some '\r')
    (hclosed : Chunk.Closed (lines a)) (b : Text) :
    Block.ofText (a ++ ['\n', '\n'] ++ b) = Block.ofText a ++ Block.ofText b := by
  obtain ⟨blanks, hne, hblanks, hlines⟩ := lines_append_blank hreturn b
  have hparted : Parted (blanks ++ lines b) := by
    cases blanks with
    | nil => exact absurd rfl hne
    | cons l blanks =>
      intro m hm
      cases hm
      exact hblanks l List.mem_cons_self
  have hall := hclosed.all_append (fun l => not_mem_of_mem_lines) hparted
  rw [Block.ofText_eq, hlines, hall, Chunk.all_blanks hblanks, List.map_append, Block.ofText_eq,
    Block.ofText_eq]

/-- A table with braces in a cell and a fence that ends with its text, before a fence that has no
end. -/
theorem ofText_append_fence :
    let a : Text := "table \x7b\n| \x7b\x7d\n\x7d\n\x60\x60\x60\nx\n\x60\x60\x60".toList
    let b : Text := "\x60\x60\x60".toList
    a.getLast? ≠ some '\r' ∧ Chunk.Closed (lines a) ∧
      Block.ofText (a ++ ['\n', '\n'] ++ b) = Block.ofText a ++ Block.ofText b := by
  intro a b
  have hlines : lines a = ["table \x7b".toList, "| \x7b\x7d".toList, "\x7d".toList,
      "\x60\x60\x60".toList, "x".toList, "\x60\x60\x60".toList] := by decide
  have hfence : Chunk.EndsIn "\x60\x60\x60".toList ["x".toList, "\x60\x60\x60".toList] :=
    ⟨_, List.mem_cons_of_mem _ List.mem_cons_self, by decide⟩
  have htable : Chunk.EndsIn "table \x7b".toList ["| \x7b\x7d".toList, "\x7d".toList,
      "\x60\x60\x60".toList, "x".toList, "\x60\x60\x60".toList] := by
    have hopening : Opening.read? "table \x7b".toList = some (.table none) := by decide
    rw [Chunk.EndsIn, hopening]
    decide
  have hclosed : Chunk.Closed (lines a) := by
    rw [hlines]
    exact .chunk (by decide) htable (.chunk (by decide) hfence .nil)
  have hreturn : a.getLast? ≠ some '\r' := by decide
  exact ⟨hreturn, hclosed, ofText_append hreturn hclosed b⟩

end Wiki
end MarkupBridge
