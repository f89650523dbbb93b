import MarkupBridge.Proofs.Images
import Mathlib.Logic.Function.Iterate

namespace MarkupBridge

namespace Text

/-- A line with the mark of a quote and a blank before it. -/
def quotedLine (l : Text) : Text := '>' :: ' ' :: l

/-- A text with the mark of a quote and a blank before each of its lines. -/
def quoted (t : Text) : Text :=
  joinLines ((lines t).map quotedLine) ++ if t.getLast? = some '\n' then ['\n'] else []

/-- A text without carriage returns and with more than blanks on its last line. -/
structure EndsVisibly (t : Text) : Prop where
  noReturn : '\r' ∉ t
  visible : ∃ l ∈ (lines t).getLast?, isBlankLine l = false

theorem not_mem_quotedLine {c : Char} (hmark : c ≠ '>') (hblank : c ≠ ' ') {l : Text}
    (h : c ∉ l) : c ∉ quotedLine l :=
  List.not_mem_cons_of_ne_of_not_mem hmark (List.not_mem_cons_of_ne_of_not_mem hblank h)

theorem not_mem_line {c : Char} {t l : Text} (h : c ∉ t) (hl : l ∈ lines t) : c ∉ l :=
  fun hc => h ((isInfix_of_mem_lines hl).subset hc)

theorem isLine_quotedLine {t l : Text} (h : '\r' ∉ t) (hl : l ∈ lines t) :
    IsLine (quotedLine l) := by
  have hbreak := not_mem_quotedLine (by decide) (by decide) (not_mem_of_mem_lines hl)
  have hreturn := not_mem_quotedLine (by decide) (by decide) (not_mem_line h hl)
  exact ⟨hbreak, fun hr => hreturn (List.mem_of_getLast? hr)⟩

theorem lines_quoted {t : Text} (h : '\r' ∉ t) : lines (quoted t) = (lines t).map quotedLine := by
  have hline : ∀ l ∈ (lines t).map quotedLine, IsLine l := by
    intro l hl
    obtain ⟨m, hm, rfl⟩ := List.mem_map.mp hl
    exact isLine_quotedLine h hm
  unfold quoted
  split
  · next hend =>
    have hne : (lines t).map quotedLine ≠ [] := by
      intro hnil
      refine lines_ne_nil h ?_ (List.map_eq_nil_iff.mp hnil)
      rintro rfl
      cases hend
    rw [← endedLines_eq_joinLines hne, lines_endedLines hline]
  · rw [List.append_nil]
    refine lines_joinLines hline fun hlast => ?_
    obtain ⟨l, -, hl⟩ := List.mem_map.mp (List.mem_of_getLast? hlast)
    cases hl

theorem not_mem_quoted {t : Text} (h : '\r' ∉ t) : '\r' ∉ quoted t := by
  intro hm
  rcases List.mem_append.mp hm with hm | hm
  · rcases mem_joinLines hm with he | ⟨l, hl, hc⟩
    · cases he
    · obtain ⟨m, hline, rfl⟩ := List.mem_map.mp hl
      exact not_mem_quotedLine (by decide) (by decide) (not_mem_line h hline) hc
  · split at hm
    · cases List.mem_singleton.mp hm
    · cases hm

theorem EndsVisibly.quoted {t : Text} (h : EndsVisibly t) : EndsVisibly (quoted t) := by
  obtain ⟨hreturn, l, hl, -⟩ := h
  refine ⟨not_mem_quoted hreturn, quotedLine l, ?_, rfl⟩
  rw [lines_quoted hreturn, List.getLast?_map, hl]
  rfl

end Text

namespace Wiki
open Text

theorem ofText_quotedLines {t : Text} (h : EndsVisibly t) :
    Block.ofText (quoted t) = [.quote (Block.ofText t)] := by
  obtain ⟨hreturn, last, hlast, hvisible⟩ := h
  obtain ⟨l, ls, hlines⟩ : ∃ l ls, lines t = l :: ls :=
    List.exists_cons_of_ne_nil (List.ne_nil_of_mem (List.mem_of_getLast? hlast))
  have hmarked : ∀ m ∈ ls.map quotedLine, Opening.isQuote m = true := by
    intro m hm
    obtain ⟨k, -, rfl⟩ := List.mem_map.mp hm
    rfl
  have hread := Chunk.read_quote (' ' :: l) hmarked Parted.nil
  have hunquoted : (('>' :: ' ' :: l) :: ls.map quotedLine).map Chunk.unquote = lines t := by
    rw [hlines, List.map_cons, List.map_map]
    exact congrArg (l :: ·) (List.map_id ls)
  rw [List.append_nil, hunquoted] at hread
  have hquoted : lines (quoted t) = ('>' :: ' ' :: l) :: ls.map quotedLine := by
    rw [lines_quoted hreturn, hlines]
    rfl
  have hinside : lines (joinLines (lines t)) = lines t := by
    refine lines_joinLines (fun m hm => ?_) fun hempty => ?_
    · exact ⟨not_mem_of_mem_lines hm, fun hr => not_mem_line hreturn hm (List.mem_of_getLast? hr)⟩
    · obtain rfl := Option.some.inj (hlast.symm.trans hempty)
      cases hvisible
  rw [Chunk.ofText_of_read hquoted rfl hread, Chunk.toBlock, Block.ofText_eq, hinside,
    ← Block.ofText_eq]

/-- A document that is quoted line by line is the one quote of that document, and quoted `k` times
it is `k` quotes one in the other around its blocks. -/
theorem ofText_quoted {t : Text} (h : EndsVisibly t) :
    Block.ofText (quoted t) = [.quote (Block.ofText t)] ∧
      ∀ k, Block.ofText (quoted^[k] t) = (fun bs => [.quote bs])^[k] (Block.ofText t) := by
  refine ⟨ofText_quotedLines h, fun k => ?_⟩
  induction k generalizing t with
  | zero => rfl
  | succ k ih =>
    rw [Function.iterate_succ_apply, Function.iterate_succ_apply, ih h.quoted,
      ofText_quotedLines h]

/-- Nested lists, an empty line, a fence that is left open and a quote, quoted twice. -/
theorem ofText_quoted_fence :
    let t : Text := "* a\n\t* b\n\n> c\n\x60\x60\x60\n\n\td".toList
    EndsVisibly t ∧
      quoted (quoted t) =
        "> > * a\n> > \t* b\n> > \n> > > c\n> > \x60\x60\x60\n> > \n> > \td".toList ∧
      Block.ofText (quoted t) = [.quote (Block.ofText t)] ∧
      Block.ofText (quoted (quoted t)) = [.quote [.quote (Block.ofText t)]] := by
  intro t
  have hlines : lines t = ["* a".toList, "\t* b".toList, [], "> c".toList,
      "\x60\x60\x60".toList, [], "\td".toList] := by decide
  have ht : EndsVisibly t := ⟨by decide, "\td".toList, by rw [hlines]; rfl, by decide⟩
  exact ⟨ht, by decide, (ofText_quoted ht).1, (ofText_quoted ht).2 2⟩

namespace Opening

/-- A line between two visible characters has no blanks to trim off. -/
theorem trim_bracedLine {c : Char} (hc : isBlank c = false) (t : Text) :
    trim (c :: t ++ ['\x7b']) = c :: t ++ ['\x7b'] := by
  refine trim_eq_self (fun d hd => ?_) fun d hd => ?_
  · cases hd
    exact hc
  · rw [List.getLast?_concat] at hd
    cases hd
    rfl

/-- What stands between the keyword of a table and the brace is its caption. -/
theorem read?_table {middle : Text} (h : middle.head?.all isBlank = true) :
    read? ("table".toList ++ middle ++ ['\x7b']) = some (.table (nonempty? (trim middle))) := by
  have htrim : trim ("table".toList ++ middle ++ ['\x7b']) =
      "table".toList ++ middle ++ ['\x7b'] :=
    trim_bracedLine (c := 't') (by decide) ("able".toList ++ middle)
  have htable : table? ("table".toList ++ middle ++ ['\x7b']) =
      some (nonempty? (trim middle)) := by
    rw [table?, htrim, List.append_assoc, after?_eq_some_iff.mpr rfl, Option.bind_some,
      List.getLast?_concat, if_pos rfl, List.dropLast_concat, Option.bind_some, if_pos h]
  rw [read?_eq (c := 't') rfl (by decide), htable]
  rfl

/-- A word between the keyword of an image block and the brace is its layout. -/
theorem read?_image {middle : Text} (hhead : middle.head?.all isBlank = true)
    (hopen : '\x7b' ∉ middle) (hword : (trim middle).all (!isBlank ·) = true) :
    read? ("img".toList ++ middle ++ ['\x7b']) =
      some (.image (nonempty? (trim middle)) []) := by
  have htrim : trim ("img".toList ++ middle ++ ['\x7b']) = "img".toList ++ middle ++ ['\x7b'] :=
    trim_bracedLine (c := 'i') (by decide) ("mg".toList ++ middle)
  have htable : table? ("img".toList ++ middle ++ ['\x7b']) = none := by
    rw [table?, htrim]
    rfl
  have hkeyword : '\x7b' ∉ "img".toList ++ middle := by simp [hopen]
  have hstart : trimStart ("img".toList ++ middle) = "img".toList ++ middle := rfl
  have himage : image? ("img".toList ++ middle ++ ['\x7b']) =
      some (nonempty? (trim middle), []) := by
    rw [image?_append hkeyword, layout?_eq, hstart, after?_eq_some_iff.mpr rfl, Option.bind_some,
      hhead, hword]
    rfl
  rw [read?_eq (c := 'i') rfl (by decide), htable, himage]
  rfl

end Opening

namespace Row

/-- The line feeds next to its braces are no rows of a table. -/
theorem read_padded {body : Text} (h : '\r' ∉ body) :
    read ('\n' :: endedLines (split '\n' body)) = read body := by
  have hlines : lines ('\n' :: endedLines (split '\n' body)) = [] :: split '\n' body := by
    refine (lines_append (l := []) List.not_mem_nil _).trans (congrArg ([] :: ·) ?_)
    exact lines_endedLines fun l hl => isLine_of_mem_split h hl
  have hempty : trim [] = [] := rfl
  rw [read, read, hlines]
  rcases split_eq_lines h with he | he
  · rw [he, List.map_cons, hempty]
    rfl
  · rw [he, List.map_cons, List.map_append, List.filter_cons_of_neg (by decide),
      List.filter_append]
    simp [hempty]

end Row

namespace Gallery

theorem drafts_cons {c : Char} (hbreak : c ≠ '\n') (hopen : c ≠ '\x7b') (t : Text) :
    drafts (c :: t) = (⟨c :: (drafts t).1.head, (drafts t).1.description⟩, (drafts t).2) := by
  rw [drafts, if_neg hbreak, if_neg hopen]

theorem drafts_braces {inside : Text} (h : Matched inside) (rest : Text) :
    drafts ('\x7b' :: (inside ++ '\x7d' :: rest)) =
      (⟨(drafts rest).1.head, (drafts rest).1.description.or (some inside)⟩, (drafts rest).2) := by
  rw [drafts, if_neg (by decide), if_pos rfl, h.inBraces_closed]

/-- A line feed after a body with matched braces begins a line of its own. -/
theorem drafts_append_newline {t : Text} (h : Matched t) :
    drafts (t ++ ['\n']) = ((drafts t).1, (drafts t).2 ++ [⟨[], none⟩]) := by
  induction h with
  | nil => simp [drafts]
  | @plain c t hopen hclose _ ih =>
    by_cases hbreak : c = '\n'
    · subst hbreak
      simp only [List.cons_append, drafts, if_true, ih, List.cons_append]
    · rw [List.cons_append, drafts_cons hbreak hopen, drafts_cons hbreak hopen, ih]
  | @braces inside rest hinside _ _ ih =>
    rw [List.cons_append, List.append_assoc, List.cons_append, drafts_braces hinside,
      drafts_braces hinside, ih]

/-- The line feeds next to its braces are no lines of an image block. -/
theorem read_padded {body : Text} (h : Matched body) :
    read ('\n' :: (body ++ ['\n'])) = read body := by
  have hempty : Draft.image? ⟨[], none⟩ = none := by decide
  have hdrafts : drafts ('\n' :: (body ++ ['\n'])) =
      (⟨[], none⟩, (drafts body).1 :: ((drafts body).2 ++ [⟨[], none⟩])) := by
    rw [drafts, if_pos rfl, drafts_append_newline h]
  simp only [read, hdrafts, List.filterMap_cons, List.filterMap_append, hempty,
    List.filterMap_nil, List.append_nil]

end Gallery

/-- A chunk that takes a line, the lines of a body and a brace leaves what comes after them. -/
theorem ofText_body {line body : Text} {c : Chunk} (hline : IsLine line)
    (hblank : isBlankLine line = false) (hreturn : '\r' ∉ body)
    (hread : ∀ rest, Chunk.read line (split '\n' body ++ ['\x7d'] :: rest) = (c, rest))
    (rest : Text) :
    Block.ofText (joinLines [line, body, ['\x7d'], rest]) = c.toBlock :: Block.ofText rest := by
  have hall : ∀ l ∈ line :: (split '\n' body ++ [['\x7d']]), IsLine l := by
    intro l hl
    rcases List.mem_cons.mp hl with rfl | hl
    · exact hline
    rcases List.mem_append.mp hl with hl | hl
    · exact isLine_of_mem_split hreturn hl
    · rw [List.mem_singleton.mp hl]
      exact ⟨by decide, by decide⟩
  have htext : joinLines [line, body, ['\x7d'], rest] =
      endedLines (line :: (split '\n' body ++ [['\x7d']])) ++ rest := by
    rw [endedLines_cons, endedLines_append, endedLines_split]
    simp [joinLines]
  have hlines : lines (joinLines [line, body, ['\x7d'], rest]) =
      line :: (split '\n' body ++ ['\x7d'] :: lines rest) := by
    rw [htext, lines_endedLines_append fun l hl => (hall l hl).unbroken,
      List.map_congr_left fun l hl => (hall l hl).dropReturn, List.map_id', List.cons_append,
      List.append_assoc]
    rfl
  rw [Block.ofText_eq, hlines, Chunk.map_all hblank (hread (lines rest)), Block.ofText_eq]

/-- A table and an image block end at the brace that matches their own. Whatever stands between
keyword and brace is the caption, or the layout if it is one word, the body is read as it is, and
what comes after the last brace is a document of its own. -/
theorem ofText_braced {body : Text} (hreturn : '\r' ∉ body) (hbody : BalancedBraces body)
    (rest : Text) :
    (∀ caption : Text, '\n' ∉ caption → caption.head?.all isBlank = true →
      Block.ofText (joinLines ["table".toList ++ caption ++ ['\x7b'], body, ['\x7d'], rest]) =
        (Chunk.table (nonempty? (trim caption)) (Row.read body)).toBlock :: Block.ofText rest) ∧
    ∀ layout : Text, '\n' ∉ layout → '\x7b' ∉ layout → layout.head?.all isBlank = true →
      (trim layout).all (!isBlank ·) = true →
      Block.ofText (joinLines ["img".toList ++ layout ++ ['\x7b'], body, ['\x7d'], rest]) =
        (Chunk.image (nonempty? (trim layout)) (Gallery.read body)).toBlock ::
          Block.ofText rest := by
  have hmatched : Matched (endedLines (split '\n' body)) := by
    rw [endedLines_split]
    exact hbody.matched.append (.plain (by decide) (by decide) .nil)
  have hbreak : ∀ l ∈ split '\n' body, '\n' ∉ l := fun _ => not_mem_of_mem_split
  have hline : ∀ t : Text, '\n' ∉ t → IsLine (t ++ ['\x7b']) := by
    intro t ht
    refine ⟨by simp [ht], ?_⟩
    rw [List.getLast?_concat]
    decide
  constructor
  · intro caption hcaption hhead
    refine ofText_body (hline _ (by simp [hcaption])) rfl hreturn (fun after => ?_) rest
    rw [Chunk.read_table (Opening.read?_table hhead) hbreak hmatched, Row.read_padded hreturn]
  · intro layout hlayout hopen hhead hword
    refine ofText_body (hline _ (by simp [hlayout])) rfl hreturn (fun after => ?_) rest
    simp only [Chunk.read, Opening.read?_image hhead hopen hword, bracedBody_closed hbreak hmatched,
      endedLines_split, Gallery.read_padded hbody.matched]

/-- Braces inside a cell and inside a description, a table and an empty line in the body, and
images in what comes after it. -/
theorem ofText_braced_nested :
    let body : Text := "| \x7bb\x7d\n\ntable c \x7b\n! \x7b\n\x7d|\x7d".toList
    let rest : Text := "img \x7b\n\x7d".toList
    '\r' ∉ body ∧ BalancedBraces body ∧
      Block.ofText (joinLines ["table a \x7b b \x7b".toList, body, ['\x7d'], rest]) =
        (Chunk.table (some "a \x7b b".toList) (Row.read body)).toBlock :: Block.ofText rest ∧
      Block.ofText (joinLines ["img side \x7b".toList, body, ['\x7d'], rest]) =
        (Chunk.image (some "side".toList) (Gallery.read body)).toBlock :: Block.ofText rest := by
  intro body rest
  have hreturn : '\r' ∉ body := by decide
  have hbody : BalancedBraces body := by decide
  obtain ⟨htable, himage⟩ := ofText_braced hreturn hbody rest
  exact ⟨hreturn, hbody, htable " a \x7b b ".toList (by decide) (by decide),
    himage " side ".toList (by decide) (by decide) (by decide) (by decide)⟩

end Wiki
end MarkupBridge
