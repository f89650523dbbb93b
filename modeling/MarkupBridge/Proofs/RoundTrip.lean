import MarkupBridge.Proofs.Framing
import MarkupBridge.Proofs.Reading

namespace MarkupBridge.Import
open Text Markdown Wiki

/-- What inline nodes write where no label is defined. -/
def inlineText (ns : List Node) : Text := (inlines ns .empty).text

theorem inlines_eq {d : Draft} (hd : d.definitions = []) (ns : List Node) :
    inlines ns d = d.write (inlineText ns) := by
  have hempty : inlineText ns = phraseText [] ns := by
    rw [inlineText, inlines_phraseText]
    rfl
  rw [inlines_phraseText, hd, hempty]

theorem inlines_append (ms ns : List Node) (d : Draft) :
    inlines (ms ++ ns) d = inlines ns (inlines ms d) := by
  induction ms generalizing d with
  | nil => rfl
  | cons m ms ih => exact ih _

theorem inlineText_append (ms ns : List Node) :
    inlineText (ms ++ ns) = inlineText ms ++ inlineText ns := by
  have hd : (inlines ms Draft.empty).definitions = [] := by
    rw [inlines_eq rfl]
    rfl
  rw [inlineText, inlines_append, inlines_eq hd]
  rfl

/-- A text on one line, with no carriage return in it. -/
def OneLine (t : Text) : Prop := '\n' ∉ t ∧ '\r' ∉ t

instance : DecidablePred OneLine := fun _ => inferInstanceAs (Decidable (_ ∧ _))

/-- The blocks that survive being written in the wiki. -/
def Survives : Node → Prop
  | .heading depth cs => 1 ≤ depth ∧ depth ≤ 6 ∧ OneLine (inlineText cs)
  | .paragraph cs => inlineText cs ≠ [] ∧ '\r' ∉ inlineText cs ∧
    ∀ l ∈ lines (inlineText cs), isBlankLine l = false ∧ Opening.startsBlock l = false
  | .code lang _ value =>
    (∀ t ∈ lang, Opening.IsLanguage t) ∧ '\r' ∉ value ∧
      ∀ l ∈ lines value, Opening.isFence l = false
  | .thematicBreak => True
  | .blockquote cs => cs ≠ [] ∧ ∀ n ∈ cs, n.isParagraph = true ∧ OneLine (inlineText n.children)
  | _ => False

instance : DecidablePred Survives
  | .heading _ _ | .paragraph _ | .code _ _ _ | .blockquote _ =>
    inferInstanceAs (Decidable (_ ∧ _))
  | .thematicBreak => inferInstanceAs (Decidable True)
  | .root _ | .list _ _ _ _ | .listItem _ _ _ | .math _ _ | .html _ | .definition _ _
  | .footnoteDefinition _ _ | .table _ _ | .tableRow _ | .tableCell _ | .yaml _ | .toml _
  | .flowElement _ | .text _ | .emphasis _ | .strong _ | .delete _ | .inlineCode _ | .inlineMath _
  | .lineBreak | .link _ _ | .image _ _ | .linkReference _ _ _ | .imageReference _ _ _
  | .footnoteReference _ | .textElement _ | .expression _ => inferInstanceAs (Decidable False)

/-- The block that is read where a block was written. -/
def readBack : Node → Wiki.Block
  | .heading depth cs => .heading depth [Span.ofLine (trim (inlineText cs))]
  | .paragraph cs => .paragraph ((lines (inlineText cs)).map fun l => Span.ofLine (trim l))
  | .code lang _ value => .code lang (if value.isEmpty then [] else value ++ ['\n'])
  | .blockquote cs => .quote (Wiki.Block.ofText (joinLines (cs.map fun n => inlineText n.children)))
  | _ => .rule

/-- The lines that a block is written on. -/
def written : Node → List Text
  | .heading depth cs => [List.replicate depth '=' ++ ' ' :: inlineText cs]
  | .paragraph cs => split '\n' (inlineText cs)
  | .code lang _ value => ("\x60\x60\x60".toList ++ lang.getD []) ::
    ((if value.isEmpty then [] else split '\n' value) ++ ["\x60\x60\x60".toList])
  | .blockquote cs => cs.map fun n => '>' :: ' ' :: inlineText n.children
  | _ => ["----".toList]

theorem OneLine.isLine_append {t u : Text} (h : OneLine t) (hn : '\n' ∉ u) (hu : '\r' ∉ u) :
    IsLine (u ++ t) := by
  refine ⟨fun hm => ?_, fun hr => ?_⟩
  · exact (List.mem_append.mp hm).elim hn h.1
  · exact (List.mem_append.mp (List.mem_of_getLast? hr)).elim hu h.2

theorem quoted_paragraphs {ns : List Node} (h : ∀ n ∈ ns, n.isParagraph = true) {d : Draft}
    (hd : d.definitions = []) : quoted ns d =
      d.write (endedLines (ns.map fun n => '>' :: ' ' :: inlineText n.children)) := by
  induction ns generalizing d with
  | nil => simp [quoted]
  | cons n ns ih =>
    obtain ⟨cs, rfl⟩ := Node.eq_of_isParagraph (h n List.mem_cons_self)
    have hdef : (d.write ['>', ' ']).definitions = [] := hd
    rw [quoted, inlines_eq hdef, ih (fun m hm => h m (List.mem_cons_of_mem _ hm)) (by exact hd)]
    simp [Draft.write_write, Node.children]

/-- What a block writes at the top are its lines. -/
theorem block_eq {n : Node} (h : Survives n) {d : Draft} (hd : d.definitions = [])
    (htop : d.isTopLevel = true) : block n d = d.write (endedLines (written n)) := by
  cases n with
  | heading depth cs =>
    rw [block, inlines_eq (by exact hd)]
    simp [Draft.write_write, written]
  | paragraph cs =>
    rw [block, if_pos htop, inlines_eq hd, Draft.write_write, written, endedLines_split]
  | code lang info value =>
    rw [block, written]
    congr 1
    cases value with
    | nil => simp [code]
    | cons c t =>
      simp only [code, List.isEmpty_cons, Bool.false_eq_true, if_false, endedLines_cons,
        endedLines_append, endedLines_split]
      simp
  | thematicBreak => rfl
  | blockquote cs =>
    have hdef : (d.enter .quote).definitions = [] := hd
    rw [block, quoted_paragraphs (fun n hn => (h.2 n hn).1) hdef]
    rfl
  | _ => exact h.elim

theorem isLine_language {lang : Option Text} (h : ∀ t ∈ lang, Opening.IsLanguage t) :
    IsLine ("\x60\x60\x60".toList ++ lang.getD []) := by
  cases lang with
  | none => exact ⟨by decide, by decide⟩
  | some t =>
    obtain ⟨hne, htrim, hbreak, -⟩ := h t rfl
    refine ⟨fun hm => (List.mem_append.mp hm).elim (by decide) hbreak, fun hr => ?_⟩
    have hlast : t.getLast? = some '\r' := by
      rw [List.getLast?_eq_some_getLast hne]
      rw [Option.getD_some, List.getLast?_append, List.getLast?_eq_some_getLast hne] at hr
      exact hr
    rw [← htrim] at hlast
    exact absurd (isBlank_of_getLast?_trim hlast) (by decide)

/-- No line that is written loses anything where it ends. -/
theorem isLine_written {n : Node} (h : Survives n) : ∀ l ∈ written n, IsLine l := by
  intro l hl
  cases n with
  | heading depth cs =>
    obtain ⟨-, -, hs⟩ := h
    have hsign : ∀ c, c ≠ '=' → c ≠ ' ' → c ∉ List.replicate depth '=' ++ [' '] := by
      intro c hc hspace hm
      rcases List.mem_append.mp hm with hm | hm
      · exact hc (List.eq_of_mem_replicate hm)
      · exact hspace (List.mem_singleton.mp hm)
    have hline := hs.isLine_append (hsign '\n' (by decide) (by decide))
      (hsign '\r' (by decide) (by decide))
    rw [List.mem_singleton.mp hl]
    simpa using hline
  | paragraph cs => exact isLine_of_mem_split h.2.1 hl
  | code lang info value =>
    obtain ⟨hlang, hvalue, -⟩ := h
    rcases List.mem_cons.mp hl with rfl | hl
    · exact isLine_language hlang
    rcases List.mem_append.mp hl with hl | hl
    · split at hl
      · cases hl
      · exact isLine_of_mem_split hvalue hl
    · rw [List.mem_singleton.mp hl]
      exact ⟨by decide, by decide⟩
  | thematicBreak =>
    rw [List.mem_singleton.mp hl]
    exact ⟨by decide, by decide⟩
  | blockquote cs =>
    obtain ⟨n, hn, rfl⟩ := List.mem_map.mp hl
    exact (h.2 n hn).2.isLine_append (u := ['>', ' ']) (by decide) (by decide)
  | _ => exact h.elim

theorem isFence_of_mem_split {t l : Text} (hr : '\r' ∉ t)
    (h : ∀ l ∈ lines t, Opening.isFence l = false) (hl : l ∈ split '\n' t) :
    Opening.isFence l = false := by
  rcases split_eq_lines hr with he | he
  · exact h l (he ▸ hl)
  · rw [he] at hl
    rcases List.mem_append.mp hl with hl | hl
    · exact h l hl
    · rw [List.mem_singleton.mp hl]
      rfl

/-- A line feed at the end of a paragraph is one more blank line after it. -/
theorem all_paragraph {t : Text} (hne : t ≠ []) (hr : '\r' ∉ t)
    (h : ∀ l ∈ lines t, isBlankLine l = false ∧ Opening.startsBlock l = false)
    {rest : List Text} (hrest : Parted rest) :
    (Chunk.all (split '\n' t ++ rest)).map Chunk.toBlock =
      .paragraph ((lines t).map fun l => Span.ofLine (trim l)) ::
        (Chunk.all rest).map Chunk.toBlock := by
  -- The lines of the text, and perhaps the empty stretch after its last line feed.
  obtain ⟨more, hsplit, hmore, hall⟩ : ∃ more, split '\n' t = lines t ++ more ∧
      Parted (more ++ rest) ∧ Chunk.all (more ++ rest) = Chunk.all rest := by
    rcases split_eq_lines hr with hs | hs
    · exact ⟨[], by rw [List.append_nil, hs], hrest, rfl⟩
    · exact ⟨[[]], hs, fun l hl => (Option.some.inj hl).symm, Chunk.all_blank rfl rest⟩
  rw [hsplit, List.append_assoc]
  cases hlines : lines t with
  | nil => exact absurd hlines (lines_ne_nil hr hne)
  | cons l ls =>
    rw [hlines] at h
    obtain ⟨hblank, hstart⟩ := h l List.mem_cons_self
    have hls : ∀ m ∈ ls, Chunk.inParagraph m = true := by
      intro m hm
      obtain ⟨hmblank, hmstart⟩ := h m (List.mem_cons_of_mem _ hm)
      simp [Chunk.inParagraph, hmblank, hmstart]
    have hread := Chunk.read_paragraph hstart hls (hmore.stops rfl)
    rw [List.cons_append, Chunk.map_all hblank hread, hall]
    rfl

/-- A block is read off its lines whole, and what a blank line parts from it is left. -/
theorem all_written {n : Node} (h : Survives n) {rest : List Text} (hrest : Parted rest) :
    (Chunk.all (written n ++ rest)).map Chunk.toBlock =
      readBack n :: (Chunk.all rest).map Chunk.toBlock := by
  cases n with
  | heading depth cs =>
    obtain ⟨hlow, hhigh, -⟩ := h
    obtain ⟨hblank, hread⟩ := Chunk.read_heading ⟨hlow, hhigh⟩ (inlineText cs) rest
    exact Chunk.map_all hblank hread
  | paragraph cs => exact all_paragraph h.1 h.2.1 h.2.2 hrest
  | code lang info value =>
    obtain ⟨hlang, hreturn, hfence⟩ := h
    have hls : ∀ l ∈ (if value.isEmpty then [] else split '\n' value),
        Opening.isFence l = false := by
      intro l hl
      split at hl
      · cases hl
      · exact isFence_of_mem_split hreturn hfence hl
    have hread := Chunk.read_fence hlang hls rest
    rw [written, List.cons_append, List.append_assoc]
    have hmem : '\x60' ∈ "\x60\x60\x60".toList ++ lang.getD [] :=
      List.mem_append_left _ List.mem_cons_self
    refine (Chunk.map_all (isBlankLine_of_mem hmem (by decide)) hread).trans ?_
    cases value with
    | nil => rfl
    | cons c t =>
      simp only [List.isEmpty_cons, Bool.false_eq_true, if_false, endedLines_split, readBack]
      rfl
  | thematicBreak =>
    have hread : Chunk.read "----".toList rest = (.block .rule, rest) := rfl
    exact Chunk.map_all (by decide) hread
  | blockquote cs =>
    obtain ⟨hne, hcs⟩ := h
    cases cs with
    | nil => exact absurd rfl hne
    | cons m ms =>
      have hquotes : ∀ l ∈ ms.map fun n => '>' :: ' ' :: inlineText n.children,
          Opening.isQuote l = true := by
        intro l hl
        obtain ⟨k, -, rfl⟩ := List.mem_map.mp hl
        rfl
      have hunquote : ((m :: ms).map fun n => '>' :: ' ' :: inlineText n.children).map
          Chunk.unquote = (m :: ms).map fun n => inlineText n.children := by
        rw [List.map_map]
        rfl
      have hread := Chunk.read_quote (' ' :: inlineText m.children) hquotes hrest
      refine (Chunk.map_all (isBlankLine_of_mem List.mem_cons_self (by decide)) hread).trans ?_
      rw [List.map_cons] at hunquote
      rw [Chunk.toBlock, readBack, hunquote]
  | _ => exact h.elim

/-- The lines of the blocks of a root, the first of them after a block or not. -/
def parted (wroteBlock : Bool) : List Node → List Text
  | [] => []
  | n :: ns => (if wroteBlock then [[]] else []) ++ written n ++ parted true ns

theorem parted_true (ns : List Node) : Parted (parted true ns) := by
  intro l hl
  cases ns with
  | nil => cases hl
  | cons n ns => exact (Option.some.inj hl).symm

theorem isLine_parted {ns : List Node} (h : ∀ n ∈ ns, Survives n) (wroteBlock : Bool) :
    ∀ l ∈ parted wroteBlock ns, IsLine l := by
  induction ns generalizing wroteBlock with
  | nil => simp [parted]
  | cons n ns ih =>
    intro l hl
    rcases List.mem_append.mp hl with hl | hl
    · rcases List.mem_append.mp hl with hl | hl
      · cases wroteBlock with
        | false => cases hl
        | true =>
          rw [List.mem_singleton.mp hl]
          exact ⟨by decide, by decide⟩
      · exact isLine_written (h n List.mem_cons_self) l hl
    · exact ih (fun m hm => h m (List.mem_cons_of_mem _ hm)) true l hl

theorem written_ne_nil {n : Node} (h : Survives n) : written n ≠ [] := by
  cases n with
  | paragraph cs => exact split_ne_nil _ _
  | blockquote cs =>
    intro hnil
    exact h.1 (List.map_eq_nil_iff.mp hnil)
  | _ => exact List.cons_ne_nil _ _

theorem separated_eq {ns : List Node} (h : ∀ n ∈ ns, Survives n) {d : Draft}
    (hd : d.definitions = []) (htop : d.isTopLevel = true) :
    (separated ns d).text = d.text ++ endedLines (parted d.wroteBlock ns) := by
  induction ns generalizing d with
  | nil => simp [separated, parted]
  | cons n ns ih =>
    have hn := h n List.mem_cons_self
    have hcapture : d.capture (block n) = (endedLines (written n), d) := by
      unfold Draft.capture
      rw [block_eq hn (by exact hd) (by exact htop)]
      rfl
    have hne : (endedLines (written n)).isEmpty = false := by
      cases hw : written n with
      | nil => exact absurd hw (written_ne_nil hn)
      | cons l ls => simp
    rw [separated, hcapture]
    simp only [hne, Bool.false_eq_true, if_false]
    rw [ih (fun m hm => h m (List.mem_cons_of_mem _ hm)) (by exact hd) (by exact htop)]
    show (Draft.startBlock d).text ++ _ ++ endedLines (parted true ns) = _
    cases hw : d.wroteBlock
    · simp [Draft.startBlock, hw, parted]
    · simp [Draft.startBlock, hw, parted]

theorem all_parted {ns : List Node} (h : ∀ n ∈ ns, Survives n) (wroteBlock : Bool) :
    (Chunk.all (parted wroteBlock ns)).map Chunk.toBlock = ns.map readBack := by
  induction ns generalizing wroteBlock with
  | nil => simp [parted]
  | cons n ns ih =>
    have hn := h n List.mem_cons_self
    have ih := ih (fun m hm => h m (List.mem_cons_of_mem _ hm)) true
    have hwritten := all_written hn (parted_true ns)
    rw [ih] at hwritten
    cases wroteBlock with
    | false => exact hwritten
    | true =>
      show (Chunk.all ([] :: (written n ++ parted true ns))).map Chunk.toBlock = _
      rw [Chunk.all_blank rfl]
      exact hwritten

/-- A document without definitions, of headings, paragraphs, code, rules and quoted paragraphs, is
read from the wiki block by block as it was written. -/
theorem ofText_document {ns : List Node} (hdef : (Node.root ns).definitions = [])
    (h : ∀ n ∈ ns, Survives n) :
    Wiki.Block.ofText (document (.root ns)).text = ns.map readBack := by
  have htext : (document (.root ns)).text = endedLines (parted false ns) := by
    show (separated ns (define (Node.root ns).definitions .empty)).text = _
    rw [hdef]
    exact separated_eq h rfl rfl
  rw [htext, Wiki.Block.ofText_eq, lines_endedLines (isLine_parted h false), all_parted h false]

/-- Code that holds what would be a heading and a blank line, between two lines of text and a
quote. -/
theorem ofText_document_code :
    (∀ n ∈ [.paragraph [.text ['a'], .lineBreak, .strong [.text ['b']]],
      .code none none ['=', ' ', 'c', '\n', '\n', 'd'], .blockquote [.paragraph [.text ['e']]]],
        Survives n) ∧
      Wiki.Block.ofText (document (.root [
        .paragraph [.text ['a'], .lineBreak, .strong [.text ['b']]],
        .code none none ['=', ' ', 'c', '\n', '\n', 'd'],
        .blockquote [.paragraph [.text ['e']]]])).text =
      [.paragraph [Span.ofLine ['a'], Span.ofLine ['*', '*', 'b', '*', '*']],
        .code none ['=', ' ', 'c', '\n', '\n', 'd', '\n'], .quote (Wiki.Block.ofText ['e'])] :=
  have h : ∀ n ∈ [.paragraph [.text ['a'], .lineBreak, .strong [.text ['b']]],
      .code none none ['=', ' ', 'c', '\n', '\n', 'd'], .blockquote [.paragraph [.text ['e']]]],
      Survives n := by decide
  ⟨h, ofText_document rfl h⟩

end MarkupBridge.Import
