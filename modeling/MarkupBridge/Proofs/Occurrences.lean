import MarkupBridge.Proofs.Framing
import MarkupBridge.Proofs.Letters

namespace MarkupBridge

namespace Markdown

/-- What may stand at a place in a well nested tree. -/
inductive Slot where
  | flow | item | row | cell | phrasing
deriving DecidableEq, Repr

namespace Node

mutual

/-- Whether a node may stand at a place, its children nested as they should be. -/
def fits (s : Slot) : Node → Bool
  | paragraph cs | heading _ cs => s == .flow && fitAll .phrasing cs
  | blockquote cs => s == .flow && fitAll .flow cs
  | list _ _ _ cs => s == .flow && fitAll .item cs
  | table _ cs => s == .flow && fitAll .row cs
  | code _ _ _ | thematicBreak => s == .flow
  | html _ => s == .flow || s == .phrasing
  | listItem _ _ cs => s == .item && fitAll .flow cs
  | tableRow cs => s == .row && fitAll .cell cs
  | tableCell cs => s == .cell && fitAll .phrasing cs
  | text _ | inlineCode _ | lineBreak => s == .phrasing
  | emphasis cs | strong cs | delete cs => s == .phrasing && fitAll .phrasing cs
  | _ => false

def fitAll (s : Slot) : List Node → Bool
  | [] => true
  | n :: ns => fits s n && fitAll s ns

end

mutual

/-- The texts in a tree one after another, and the languages of its code. -/
def literals : Node → Text
  | text t | inlineCode t | html t => t
  | code lang _ t => lang.getD [] ++ t
  | root cs | paragraph cs | heading _ cs | blockquote cs | list _ _ _ cs | listItem _ _ cs
  | footnoteDefinition _ cs | table _ cs | tableRow cs | tableCell cs | flowElement cs | emphasis cs
  | strong cs | delete cs | link _ cs | linkReference _ _ cs | textElement cs => literalsAll cs
  | _ => []

def literalsAll : List Node → Text
  | [] => []
  | n :: ns => literals n ++ literalsAll ns

end

mutual

theorem hasRoot_of_fits {s : Slot} : {n : Node} → n.fits s = true → n.hasRoot = false
  | .paragraph cs, h | .heading _ cs, h | .blockquote cs, h | .list _ _ _ cs, h | .table _ cs, h
  | .listItem _ _ cs, h | .tableRow cs, h | .tableCell cs, h | .emphasis cs, h | .strong cs, h
  | .delete cs, h => by
    simp only [fits, Bool.and_eq_true] at h
    exact haveRoot_of_fitAll h.2
  | .root _, h => by simp [fits] at h
  | .code _ _ _, _ | .thematicBreak, _ | .html _, _ | .text _, _ | .inlineCode _, _
  | .lineBreak, _ => rfl
  | .math _ _, h | .definition _ _, h | .footnoteDefinition _ _, h | .yaml _, h | .toml _, h
  | .flowElement _, h | .inlineMath _, h | .link _ _, h | .image _ _, h | .linkReference _ _ _, h
  | .imageReference _ _ _, h | .footnoteReference _, h | .textElement _, h | .expression _, h => by
    simp [fits] at h

theorem haveRoot_of_fitAll {s : Slot} : {ns : List Node} → fitAll s ns = true → haveRoot ns = false
  | [], _ => rfl
  | n :: ns, h => by
    obtain ⟨hn, hns⟩ := Bool.and_eq_true_iff.mp h
    exact Bool.or_eq_false_iff.mpr ⟨hasRoot_of_fits hn, haveRoot_of_fitAll hns⟩

end

/-- Texts in paragraphs and texts outside them are all there is. -/
theorem count_literalsAll (c : Char) (ns : List Node) :
    (literalsAll ns).count c = (literalsAll (ns.filter isParagraph)).count c +
      (literalsAll (ns.filter (!isParagraph ·))).count c := by
  induction ns with
  | nil => rfl
  | cons n ns ih =>
    cases hn : isParagraph n
    all_goals
      simp only [List.filter_cons, hn, Bool.not_false, Bool.not_true, Bool.false_eq_true, if_true,
        if_false, literalsAll, List.count_append, ih]
      omega

end Node
end Markdown

namespace Import
open Text Markdown Node

/-- The letters of the word before a table's body and of the markers of tasks. -/
def marks : Text := "tablevx".toList

variable {c : Char}

theorem count_letters (hc : isMarkup marks c = false) (t : Text) :
    (letters marks t).count c = t.count c :=
  List.count_filter (by simp [hc])

theorem count_eq_zero (hc : isMarkup marks c = false) {t : Text} (h : letters marks t = []) :
    t.count c = 0 := by
  rw [← count_letters hc, h, List.count_nil]

theorem count_eq (hc : isMarkup marks c = false) {t u : Text}
    (h : letters marks t = letters marks u) : t.count c = u.count c := by
  rw [← count_letters hc, h, count_letters hc]

theorem letters_escapeAfter (inLink : Bool) (prev : Option Char) (t : Text) :
    letters marks (Wiki.Row.escapeAfter inLink prev t) = letters marks t := by
  induction t generalizing inLink prev with
  | nil => rfl
  | cons c t ih =>
    have hslash : letters marks ['\\'] = [] := rfl
    simp only [Wiki.Row.escapeAfter]
    split
    · rw [letters_cons, hslash, letters_cons, ih, letters_cons c t, List.nil_append]
    · rw [letters_cons, ih, letters_cons c t]

theorem count_write (t : Text) (d : Draft) :
    (d.write t).text.count c = d.text.count c + t.count c := List.count_append

theorem count_write_marks (hc : isMarkup marks c = false) {t : Text} (ht : letters marks t = [])
    (d : Draft) : (d.write t).text.count c = d.text.count c := by
  rw [count_write, count_eq_zero hc ht, Nat.add_zero]

/-- Marks around what is written inside them add nothing. -/
theorem count_enclosed (hc : isMarkup marks c = false) {f : Draft → Draft} {k : Nat}
    (hf : ∀ d, (f d).text.count c = d.text.count c + k) {before after : Text}
    (hb : letters marks before = []) (ha : letters marks after = []) (d : Draft) :
    ((f (d.write before)).write after).text.count c = d.text.count c + k := by
  rw [count_write_marks hc ha, hf, count_write_marks hc hb]

theorem count_emphasis (hc : isMarkup marks c = false) {cs : List Node}
    (hcs : ∀ d, (inlines cs d).text.count c = d.text.count c + (literalsAll cs).count c)
    (hinner : ∀ ds, cs = [.strong ds] →
      ∀ d, (inlines ds d).text.count c = d.text.count c + (literalsAll ds).count c)
    (d : Draft) :
    (inline (.emphasis cs) d).text.count c = d.text.count c + (literalsAll cs).count c := by
  by_cases h : ∃ ds, cs = [.strong ds]
  · obtain ⟨ds, rfl⟩ := h
    have hds : literalsAll [.strong ds] = literalsAll ds := by simp [literalsAll, literals]
    rw [inline, hds]
    exact count_enclosed hc (hinner ds rfl) rfl rfl d
  · rw [inline.eq_5 d cs fun ds he => h ⟨ds, he⟩]
    exact count_enclosed hc hcs rfl rfl d

mutual

theorem count_inline (hc : isMarkup marks c = false) : (n : Node) → n.fits .phrasing = true →
    (d : Draft) → (inline n d).text.count c = d.text.count c + n.literals.count c
  | .text _, _, d | .html _, _, d => by
    rw [inline, count_write, literals]
  | .lineBreak, _, d => by
    rw [inline, count_write_marks hc (by simp)]
    rfl
  | .inlineCode t, _, d => by
    have ht : ∀ d : Draft, (d.write t).text.count c = d.text.count c + t.count c := count_write t
    have h : (((d.write ['\x60']).write t).write ['\x60']).text.count c =
        d.text.count c + t.count c := count_enclosed hc ht rfl rfl d
    simpa [inline, literals, Draft.write_write] using h
  | .emphasis cs, h, d => by
    rw [literals]
    refine count_emphasis hc (count_inlines hc cs h) (fun ds hds => ?_) d
    subst hds
    exact count_inlines hc ds (by simpa [fits, fitAll] using h)
  | .strong cs, h, d | .delete cs, h, d => by
    rw [inline, literals]
    exact count_enclosed hc (count_inlines hc cs h) rfl rfl d
  | .paragraph _, h, _ | .heading _ _, h, _ | .blockquote _, h, _ | .list _ _ _ _, h, _
  | .table _ _, h, _ | .code _ _ _, h, _ | .thematicBreak, h, _ | .listItem _ _ _, h, _
  | .tableRow _, h, _ | .tableCell _, h, _ | .root _, h, _ | .math _ _, h, _ | .definition _ _, h, _
  | .footnoteDefinition _ _, h, _ | .yaml _, h, _ | .toml _, h, _ | .flowElement _, h, _
  | .inlineMath _, h, _ | .link _ _, h, _ | .image _ _, h, _ | .linkReference _ _ _, h, _
  | .imageReference _ _ _, h, _ | .footnoteReference _, h, _ | .textElement _, h, _
  | .expression _, h, _ => by
    simp [fits] at h

theorem count_inlines (hc : isMarkup marks c = false) : (ns : List Node) →
    fitAll .phrasing ns = true → (d : Draft) →
    (inlines ns d).text.count c = d.text.count c + (literalsAll ns).count c
  | [], _, d => rfl
  | n :: ns, h, d => by
    obtain ⟨hn, hns⟩ := Bool.and_eq_true_iff.mp h
    rw [inlines, count_inlines hc ns hns, count_inline hc n hn, literalsAll, List.count_append,
      Nat.add_assoc]

end

theorem count_itemText (hc : isMarkup marks c = false) {ns : List Node}
    (h : fitAll .flow ns = true) (first : Bool) (d : Draft) :
    (itemText first ns d).text.count c =
      d.text.count c + (literalsAll (ns.filter isParagraph)).count c := by
  induction ns generalizing first d with
  | nil => rfl
  | cons n ns ih =>
    obtain ⟨hn, hns⟩ := Bool.and_eq_true_iff.mp h
    cases n with
    | paragraph cs =>
      have hgap : (if first then d else d.write [' ']).text.count c = d.text.count c := by
        cases first
        · exact count_write_marks hc rfl d
        · rfl
      have hcs : fitAll .phrasing cs = true := hn
      have hfilter : (Node.paragraph cs :: ns).filter isParagraph =
          .paragraph cs :: ns.filter isParagraph := rfl
      rw [itemText, ih hns, count_inlines hc cs hcs, hgap, hfilter, literalsAll, literals,
        List.count_append, Nat.add_assoc]
    | _ =>
      simp only [itemText]
      exact ih hns first d

theorem count_escape_trim (hc : isMarkup marks c = false) (t : Text) :
    (Wiki.Row.escape (trim t)).count c = t.count c :=
  count_eq hc ((letters_escapeAfter false none _).trans (letters_trim t))

/-- A cell is trimmed and escaped, which touches no letter. -/
theorem count_cells (hc : isMarkup marks c = false) {ns : List Node} (h : fitAll .cell ns = true)
    (align : List (Option Align)) (d : Draft) :
    (cells align ns d).1.count c = (literalsAll ns).count c := by
  induction ns generalizing align d with
  | nil => rfl
  | cons n ns ih =>
    obtain ⟨hn, hns⟩ := Bool.and_eq_true_iff.mp h
    cases n with
    | tableCell cs =>
      have hcs : fitAll .phrasing cs = true := hn
      have hmark : ∀ header : Bool, [if header then '!' else '|', ' '].count c = 0 := by
        intro header
        cases header
        · exact count_eq_zero hc rfl
        · exact count_eq_zero hc rfl
      have hspace : [' '].count c = 0 := count_eq_zero hc rfl
      have hcell := count_inlines hc cs hcs (Level.reset .inline d)
      rw [Level.reset_text, List.count_nil, Nat.zero_add] at hcell
      simp only [cells, (inlines_frames (l := .inline) cs).capture_eq, List.count_append, hmark,
        hspace, count_escape_trim hc, literalsAll, literals, ih hns, hcell]
      omega
    | _ => cases hn

theorem count_rows (hc : isMarkup marks c = false) {ns : List Node} (h : fitAll .row ns = true)
    (align : List (Option Align)) (d : Draft) :
    (rows align ns d).text.count c = d.text.count c + (literalsAll ns).count c := by
  induction ns generalizing d with
  | nil => rfl
  | cons n ns ih =>
    obtain ⟨hn, hns⟩ := Bool.and_eq_true_iff.mp h
    cases n with
    | tableRow cs =>
      have hcs : fitAll .cell cs = true := hn
      have hend : ∀ t : Text, (trimEnd t ++ ['\n']).count c = t.count c := fun t =>
        count_eq hc (by rw [letters_append, letters_newline, List.append_nil, letters_trimEnd])
      simp only [rows, cells_eq align cs d, ih hns, count_write, hend, count_cells hc hcs,
        literalsAll, literals, List.count_append, Nat.add_assoc]
    | _ => cases hn

/-- What a block writes of the texts in it. A paragraph that is not at the top leaves itself to what
it stands in. -/
def owned (d : Draft) (n : Node) : Text :=
  if n.isParagraph && !d.isTopLevel then [] else n.literals

theorem owned_of_not_paragraph {n : Node} (hn : n.isParagraph = false) (d : Draft) :
    owned d n = n.literals := by
  simp [owned, hn]

theorem owned_of_isTopLevel {d : Draft} (hd : d.isTopLevel = true) (n : Node) :
    owned d n = n.literals := by
  simp [owned, hd]

theorem letters_itemMarker (checked : Option Bool) (d : Draft) :
    letters marks (List.replicate (d.listDepth - 1) '\t' ++ itemMarker checked d ++ [' ']) =
      [] := by
  have htabs : letters marks (List.replicate (d.listDepth - 1) '\t') = [] :=
    letters_replicate (by decide) _
  have hmarker : letters marks (itemMarker checked d) = [] := by
    unfold itemMarker
    split
    · rfl
    · rfl
    · split
      · rfl
      · rfl
  rw [letters_append, letters_append, htabs, hmarker]
  rfl

/-- None of the items of a list is a paragraph. -/
theorem filter_items {ns : List Node} (h : fitAll .item ns = true) :
    ns.filter (!isParagraph ·) = ns := by
  induction ns with
  | nil => rfl
  | cons n ns ih =>
    obtain ⟨hn, hns⟩ := Bool.and_eq_true_iff.mp h
    cases n with
    | paragraph cs => cases hn
    | _ =>
      rw [List.filter_cons, ih hns]
      rfl

mutual

theorem count_block (hc : isMarkup marks c = false) {s : Slot} (hs : s = .flow ∨ s = .item) :
    (n : Node) → n.fits s = true → (d : Draft) →
    (block n d).text.count c = d.text.count c + (owned d n).count c
  | .paragraph cs, h, d => by
    have hcs := (Bool.and_eq_true_iff.mp h).2
    cases hd : d.isTopLevel
    · simp [block, owned, hd, isParagraph]
    · rw [block, if_pos hd, count_write_marks hc letters_newline, count_inlines hc cs hcs,
        owned_of_isTopLevel hd, literals]
  | .heading depth cs, h, d => by
    have hcs := (Bool.and_eq_true_iff.mp h).2
    have hsigns : letters marks (List.replicate depth '=' ++ [' ']) = [] := by
      rw [letters_append, letters_replicate (by decide)]
      rfl
    rw [block, owned_of_not_paragraph rfl, literals]
    exact count_enclosed hc (count_inlines hc cs hcs) hsigns letters_newline d
  | .blockquote cs, h, d => by
    have hcs := (Bool.and_eq_true_iff.mp h).2
    rw [owned_of_not_paragraph rfl, literals, block]
    exact count_quoted hc cs hcs (d.enter .quote) rfl
  | .list ordered _ _ cs, h, d => by
    have hcs := (Bool.and_eq_true_iff.mp h).2
    have hitems := count_blocks hc (.inr rfl) cs hcs (d.enter (.list ordered)) rfl
    rw [filter_items hcs] at hitems
    rw [owned_of_not_paragraph rfl, literals, block]
    exact hitems
  | .table align cs, h, d => by
    have hcs := (Bool.and_eq_true_iff.mp h).2
    rw [owned_of_not_paragraph rfl, literals, block]
    exact count_enclosed hc (count_rows hc hcs align) rfl rfl d
  | .code lang _ value, _, d => by
    have hfence : "\x60\x60\x60".toList.count c = 0 := count_eq_zero hc rfl
    have hend : "\x60\x60\x60\n".toList.count c = 0 := count_eq_zero hc rfl
    have hnewline : ['\n'].count c = 0 := count_eq_zero hc letters_newline
    have hvalue : (if value.isEmpty then [] else value ++ ['\n']).count c = value.count c := by
      cases value with
      | nil => rfl
      | cons a t =>
        rw [if_neg (by simp), List.count_append, hnewline, Nat.add_zero]
    rw [owned_of_not_paragraph rfl, literals, block, count_write]
    simp only [code, List.count_append, hfence, hend, hnewline, hvalue]
    omega
  | .thematicBreak, _, d => by
    rw [block, count_write_marks hc rfl]
    rfl
  | .html value, _, d => by
    have hnewline : ['\n'].count c = 0 := count_eq_zero hc letters_newline
    rw [owned_of_not_paragraph rfl, literals, block, count_write, List.count_append, hnewline,
      Nat.add_zero]
  | .listItem checked _ cs, h, d => by
    have hcs := (Bool.and_eq_true_iff.mp h).2
    -- The line of the item has the paragraphs, the blocks after it leave them out.
    rw [owned_of_not_paragraph rfl, literals, block, count_literalsAll]
    show (blocks cs (Draft.enter .item _)).text.count c = _
    rw [count_blocks hc (.inl rfl) cs hcs _ rfl]
    show (Draft.write _ _).text.count c + _ = _
    rw [count_write_marks hc letters_newline, count_itemText hc hcs,
      count_write_marks hc (letters_itemMarker checked d), Nat.add_assoc]
  | .text _, h, _ | .inlineCode _, h, _ | .lineBreak, h, _ | .emphasis _, h, _ | .strong _, h, _
  | .delete _, h, _ | .tableRow _, h, _ | .tableCell _, h, _ | .root _, h, _ | .math _ _, h, _
  | .definition _ _, h, _ | .footnoteDefinition _ _, h, _ | .yaml _, h, _ | .toml _, h, _
  | .flowElement _, h, _ | .inlineMath _, h, _ | .link _ _, h, _ | .image _ _, h, _
  | .linkReference _ _ _, h, _ | .imageReference _ _ _, h, _ | .footnoteReference _, h, _
  | .textElement _, h, _ | .expression _, h, _ => by
    rcases hs with rfl | rfl
    · cases h
    · cases h

theorem count_blocks (hc : isMarkup marks c = false) {s : Slot} (hs : s = .flow ∨ s = .item) :
    (ns : List Node) → fitAll s ns = true → (d : Draft) → d.isTopLevel = false →
    (blocks ns d).text.count c =
      d.text.count c + (literalsAll (ns.filter (!isParagraph ·))).count c
  | [], _, _, _ => rfl
  | n :: ns, h, d, hd => by
    obtain ⟨hn, hns⟩ := Bool.and_eq_true_iff.mp h
    have htop : (block n d).isTopLevel = false := by
      rw [block_frames n (hasRoot_of_fits hn)]
      exact hd
    rw [blocks, count_blocks hc hs ns hns _ htop, count_block hc hs n hn, List.filter_cons]
    cases hp : n.isParagraph
    · simp only [owned_of_not_paragraph hp, Bool.not_false, if_true, literalsAll,
        List.count_append, Nat.add_assoc]
    · simp [owned, hp, hd]

theorem count_quoted (hc : isMarkup marks c = false) : (ns : List Node) →
    fitAll .flow ns = true → (d : Draft) → d.isTopLevel = false →
    (quoted ns d).text.count c = d.text.count c + (literalsAll ns).count c
  | [], _, _, _ => rfl
  | n :: ns, h, d, hd => by
    obtain ⟨hn, hns⟩ := Bool.and_eq_true_iff.mp h
    have hblock := count_block hc (.inl rfl) n hn
    have hrest := count_quoted hc ns hns
    rw [literalsAll, List.count_append, ← Nat.add_assoc]
    cases hp : n.isParagraph
    -- A paragraph is written in place, and any other block is set aside first.
    · have hend : ∀ t : Text, (dropEndWhile (· == '\n') t ++ ['\n']).count c = t.count c := fun t =>
        count_eq hc (by rw [letters_append, letters_newline, List.append_nil,
          letters_dropEndWhile_newline])
      have haside := hblock (Level.reset .block (d.write ['>', ' ']))
      rw [Level.reset_text, List.count_nil, Nat.zero_add, owned_of_not_paragraph hp] at haside
      simp only [quoted_cons hp, (block_frames n (hasRoot_of_fits hn)).capture_eq]
      rw [hrest _ (by exact hd), count_write, count_write_marks hc rfl, hend, haside]
    · obtain ⟨cs, rfl⟩ := eq_of_isParagraph hp
      have hcs : fitAll .phrasing cs = true := hn
      have htop : ((inlines cs (d.write ['>', ' '])).write ['\n']).isTopLevel = false := by
        rw [inlines_frames (l := .block) cs]
        exact hd
      rw [quoted, hrest _ htop, literals]
      congr 1
      exact count_enclosed hc (count_inlines hc cs hcs) rfl letters_newline d

end

/-- A blank line before a block is all that a root adds. -/
theorem count_separated (hc : isMarkup marks c = false) {ns : List Node}
    (h : fitAll .flow ns = true) {d : Draft} (hd : d.isTopLevel = true) :
    (separated ns d).text.count c = d.text.count c + (literalsAll ns).count c := by
  induction ns generalizing d with
  | nil => rfl
  | cons n ns ih =>
    obtain ⟨hn, hns⟩ := Bool.and_eq_true_iff.mp h
    have hstart : d.startBlock.text.count c = d.text.count c := by
      unfold Draft.startBlock
      split
      · exact count_write_marks hc letters_newline d
      · rfl
    have haside := count_block hc (.inl rfl) n hn (Level.reset .block d)
    rw [Level.reset_text, List.count_nil, Nat.zero_add, owned_of_isTopLevel (by exact hd)] at haside
    rw [separated, (block_frames n (hasRoot_of_fits hn)).capture_eq]
    simp only
    split
    · next hnil =>
      rw [List.isEmpty_iff.mp hnil, List.count_nil] at haside
      rw [ih hns hd, literalsAll, List.count_append, ← haside, Nat.zero_add]
    · rw [ih hns (by exact hd), count_write, hstart, haside, literalsAll, List.count_append,
        Nat.add_assoc]

theorem define_text (ds : List (Label × Resource)) (d : Draft) :
    (define ds d).text = d.text ∧ (define ds d).scopes = d.scopes := by
  rw [define_eq]
  exact ⟨rfl, rfl⟩

/-- A well nested document in the wiki has each letter as often as its texts have it together. -/
theorem count_document (hc : isMarkup marks c = false) {ns : List Node}
    (h : fitAll .flow ns = true) :
    (document (.root ns)).text.count c = (literals (.root ns)).count c := by
  obtain ⟨htext, hscopes⟩ := define_text (definitions (.root ns)) .empty
  have htop : (define (definitions (.root ns)) .empty).isTopLevel = true := by
    unfold Draft.isTopLevel Draft.scope
    rw [hscopes]
    rfl
  show (separated ns (define (definitions (.root ns)) .empty)).text.count c = _
  rw [count_separated hc h htop, htext, literals]
  exact Nat.zero_add _

/-- A paragraph in a quote and one in an item inside that quote, each written by another parent. -/
theorem count_document_quote :
    isMarkup marks 'o' = false ∧
      fitAll .flow [.blockquote [.paragraph [.text ['o', 'n']], .list false none false
        [.listItem none false [.paragraph [.strong [.text ['t', 'o']]], .html ['o']]]]] = true ∧
      (document (.root [.blockquote [.paragraph [.text ['o', 'n']], .list false none false
        [.listItem none false
          [.paragraph [.strong [.text ['t', 'o']]], .html ['o']]]]])).text.count 'o' = 3 :=
  ⟨by decide, by decide, (count_document (by decide) (by decide)).trans (by decide)⟩

end Import
end MarkupBridge
