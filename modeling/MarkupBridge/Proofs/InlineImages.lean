import MarkupBridge.Proofs.Images
import MarkupBridge.Proofs.Preorder
import MarkupBridge.Proofs.Tokens
import MarkupBridge.Proofs.Words

namespace MarkupBridge

namespace Wiki
open Text

/-- Whether a text of some paragraph, at any depth, has the stretch `w` in it. -/
def Block.Shows (bs : List Block) (w : Text) : Prop :=
  ∃ ls, .paragraph ls ∈ preorder bs ∧ ∃ ss ∈ ls, ∃ t, .text t ∈ ss ∧ w <:+: t

theorem Block.shows_paragraph {t w : Text} :
    Shows [.paragraph [[.text t]]] w ↔ w <:+: t := by
  simp [Shows, preorder, inside]

theorem Block.shows_image {layout width height : Option Text} {target w : Text}
    {description : List Block} :
    Shows [.image layout [⟨target, width, height, description⟩]] w ↔ Shows description w := by
  simp [Shows, preorder, inside, preorderEntries]

theorem Block.not_shows_nil (w : Text) : ¬ Shows [] w := by
  simp [Shows, preorder]

end Wiki

namespace Import
open Text Markdown Wiki

/-- Letters and digits of any script, and all else that is neither blank nor ASCII punctuation. -/
def isLetter (c : Char) : Bool := !isBlank c && !isAsciiPunctuation c

def isNameChar (c : Char) : Bool := isLetter c || c == '.'

/-- A word of letters and dots. -/
def IsName (t : Text) : Prop := t ≠ [] ∧ t.all isNameChar = true

instance : DecidablePred IsName := fun _ => inferInstanceAs (Decidable (_ ∧ _))

/-- Words of letters with spaces between them, at least one. -/
def IsWords (t : Text) : Prop :=
  isBlankLine t = false ∧ t.all (fun c => isLetter c || c == ' ') = true

instance : DecidablePred IsWords := fun _ => inferInstanceAs (Decidable (_ ∧ _))

/-- Texts of words, and images with names for target and description. -/
def IsTextOrImage : Node → Prop
  | .text t => IsWords t
  | .image r alt => r.title = none ∧ IsName r.url ∧ IsName alt
  | _ => False

/-- An image that opens a block, with the layout before its brace and the nodes after it. -/
structure Opened where
  layout : Option Text
  resource : Resource
  alt : Text
  after : List Node

/-- The image that opens a block where a line begins with `lead`: the first one, if the words before
its brace are `img` and at most one more. -/
def opened? (lead : Text) : List Node → Option Opened
  | .text t :: ns => opened? (lead ++ t) ns
  | .image r alt :: ns =>
    (Opening.layout? (lead ++ "img ".toList)).map fun layout => ⟨layout, r, alt, ns⟩
  | _ => none

theorem IsName.isBlank {t : Text} (h : IsName t) {c : Char} (hc : c ∈ t) : isBlank c = false := by
  rcases Bool.or_eq_true_iff.mp (List.all_eq_true.mp h.2 c hc) with hletter | hdot
  · simpa using (Bool.and_eq_true_iff.mp hletter).1
  · rw [beq_iff_eq.mp hdot]
    rfl

theorem IsName.isBlankLine {t : Text} (h : IsName t) : isBlankLine t = false := by
  obtain ⟨c, u, rfl⟩ := List.exists_cons_of_ne_nil h.1
  exact isBlankLine_of_mem List.mem_cons_self (h.isBlank List.mem_cons_self)

theorem IsName.trim_eq {t : Text} (h : IsName t) : trim t = t :=
  trim_eq_self (fun _ hc => h.isBlank (List.mem_of_head? hc))
    fun _ hc => h.isBlank (List.mem_of_getLast? hc)

theorem IsName.unbraced {t : Text} (h : IsName t) : Unbraced t :=
  ⟨not_mem_of_all h.2 rfl, not_mem_of_all h.2 rfl, not_mem_of_all h.2 rfl⟩

theorem IsName.isTarget {t : Text} (h : IsName t) : Gallery.IsTarget t :=
  ⟨h.1, h.trim_eq, not_mem_of_all h.2 rfl, h.unbraced⟩

theorem IsName.isDescription {t : Text} (h : IsName t) : Gallery.IsDescription t :=
  ⟨h.trim_eq, h.unbraced⟩

/-- What the line of such a paragraph is made of. -/
def isPlainChar (c : Char) : Bool := isLetter c || [' ', '.', '\x7b', '\x7d', '|'].contains c

theorem all_isPlainChar {p : Char → Bool} {t : Text} (h : t.all p = true)
    (hp : ∀ c, p c = true → isLetter c = true ∨ c ∈ [' ', '.', '\x7b', '\x7d', '|']) :
    t.all isPlainChar = true := by
  refine List.all_eq_true.mpr fun c hc => Bool.or_eq_true_iff.mpr ?_
  rcases hp c (List.all_eq_true.mp h c hc) with hletter | hmem
  · exact .inl hletter
  · exact .inr (List.contains_iff_mem.mpr hmem)

theorem IsName.all_isPlainChar {t : Text} (h : IsName t) : t.all isPlainChar = true := by
  refine Import.all_isPlainChar h.2 fun c hc => ?_
  rcases Bool.or_eq_true_iff.mp hc with hletter | hdot
  · exact .inl hletter
  · exact .inr (by simp [beq_iff_eq.mp hdot])

theorem IsWords.all_isPlainChar {t : Text} (h : IsWords t) : t.all isPlainChar = true := by
  refine Import.all_isPlainChar h.2 fun c hc => ?_
  rcases Bool.or_eq_true_iff.mp hc with hletter | hspace
  · exact .inl hletter
  · exact .inr (by simp [beq_iff_eq.mp hspace])

theorem IsWords.not_mem {t : Text} (h : IsWords t) : '\x7b' ∉ t := not_mem_of_all h.2 rfl

theorem tokens_plain {t : Text} (ht : t.all isPlainChar = true) (prev : Option Char) :
    tokens prev false t = t.map .char := by
  induction t generalizing prev with
  | nil => exact tokens_nil prev false
  | cons c t ih =>
    have hcalm : Calm (c :: t) := calm_of_not_mem (not_mem_of_all ht rfl)
    obtain ⟨hc, ht⟩ := Bool.and_eq_true_iff.mp ht
    rw [tokens_of_standsAlone (standsAlone_of_all (by decide) hc) hcalm, ih ht, List.map_cons]

/-- A line that opens no block is a paragraph of one text. -/
theorem read_plain {line : Text} (hblank : isBlankLine line = false)
    (hplain : line.all isPlainChar = true) (hread : Opening.read? line = none) :
    Chunk.read line [] = (.block (.paragraph [[.text (trim line)]]), []) := by
  have htrim : (trim line).all isPlainChar = true :=
    List.all_eq_true.mpr fun c hc => List.all_eq_true.mp hplain c ((trim_isInfix line).subset hc)
  have hline : Span.ofLine (trim line) = [.text (trim line)] := by
    rw [Span.ofLine_eq, tokens_plain htrim, Span.gather_chars (trim_ne_nil hblank)]
  simp only [Chunk.read, hread, List.takeWhile_nil, List.dropWhile_nil, List.map_cons,
    List.map_nil, hline]

/-- A name is a document of one paragraph. -/
theorem IsName.ofText {t : Text} (h : IsName t) :
    Wiki.Block.ofText t = [.paragraph [[.text t]]] := by
  have hlines : lines t = [t] := by
    rw [lines, split_of_not_mem (not_mem_of_all h.2 rfl), endLines]
    exact if_neg (by simpa using h.1)
  have hstart : Opening.startsBlock t = false := by
    refine Opening.startsBlock_of_signs fun c hc hsign => ?_
    have hsigns : Opening.signs.all (!isNameChar ·) = true := by decide
    exact not_mem_of_all hsigns (by simp [List.all_eq_true.mp h.2 c hc]) hsign
  have hchunk := read_plain h.isBlankLine h.all_isPlainChar (Opening.read?_eq_none hstart)
  rw [h.trim_eq] at hchunk
  exact Chunk.ofText_of_read hlines h.isBlankLine hchunk

theorem inlineText_text (t : Text) : inlineText [.text t] = t := rfl

theorem isInfix_inlineText {t : Text} {cs : List Node} (h : .text t ∈ cs) :
    t <:+: inlineText cs := by
  obtain ⟨ms, ns, rfl⟩ := List.append_of_mem h
  rw [List.append_cons, inlineText_append, inlineText_append, inlineText_text]
  exact ⟨inlineText ms, inlineText ns, rfl⟩

theorem inlineText_cons (n : Node) (ns : List Node) :
    inlineText (n :: ns) = inlineText [n] ++ inlineText ns :=
  inlineText_append [n] ns

theorem inlineText_untitled {r : Resource} (hr : r.title = none) (alt : Text) :
    inlineText [.image r alt] = "img \x7b".toList ++ Gallery.body r.url alt ++ ['\x7d'] := by
  rw [inlineText_image, described, hr]
  rfl

/-- The first image in a line is looked at with all that stands before its brace. -/
theorem image?_image {r : Resource} (hr : r.title = none) {lead : Text} (hlead : '\x7b' ∉ lead)
    (alt : Text) (cs : List Node) : Opening.image? (lead ++ inlineText (.image r alt :: cs)) =
      (Opening.layout? (lead ++ "img ".toList)).map
        (·, Gallery.body r.url alt ++ '\x7d' :: inlineText cs) := by
  have hline : lead ++ inlineText (.image r alt :: cs) = (lead ++ "img ".toList) ++
      '\x7b' :: (Gallery.body r.url alt ++ '\x7d' :: inlineText cs) := by
    rw [inlineText_cons, inlineText_untitled hr]
    simp
  rw [hline, Opening.image?_append (by simp [hlead])]

section
variable {cs : List Node} (h : ∀ n ∈ cs, IsTextOrImage n)
include h

theorem definitionsAll_eq_nil : Node.definitionsAll cs = [] := by
  induction cs with
  | nil => rfl
  | cons n cs ih =>
    have hn := h n List.mem_cons_self
    rw [Node.definitionsAll, ih fun m hm => h m (List.mem_cons_of_mem n hm)]
    cases n with
    | text t => rfl
    | image r alt => rfl
    | _ => exact hn.elim

theorem all_isPlainChar_inlineText : (inlineText cs).all isPlainChar = true := by
  induction cs with
  | nil => rfl
  | cons n cs ih =>
    have hn := h n List.mem_cons_self
    rw [inlineText_cons, List.all_append, ih fun m hm => h m (List.mem_cons_of_mem n hm),
      Bool.and_true]
    cases n with
    | text t => exact hn.all_isPlainChar
    | image r alt =>
      obtain ⟨htitle, hurl, halt⟩ := hn
      have hbarred : (Gallery.barred alt).all isPlainChar = true := by
        unfold Gallery.barred
        split
        · rfl
        · rw [List.all_append, halt.all_isPlainChar]
          rfl
      rw [inlineText_untitled htitle, Gallery.body]
      simp only [List.all_append, List.all_cons, hurl.all_isPlainChar, hbarred]
      rfl
    | _ => exact hn.elim

/-- The line ends with more than blanks after its last open brace. -/
theorem exists_end_of_inlineText (hne : cs ≠ []) :
    ∃ u v, inlineText cs = u ++ v ∧ isBlankLine v = false ∧ '\x7b' ∉ v := by
  induction cs with
  | nil => exact absurd rfl hne
  | cons n cs ih =>
    have hn := h n List.mem_cons_self
    cases cs with
    | nil =>
      cases n with
      | text t =>
        exact ⟨[], t, rfl, hn.1, hn.not_mem⟩
      | image r alt => exact ⟨_, ['\x7d'], inlineText_image r alt, by decide, by decide⟩
      | _ => exact hn.elim
    | cons m cs =>
      obtain ⟨u, v, htext, hblank, hopen⟩ :=
        ih (fun m hm => h m (List.mem_cons_of_mem n hm)) (List.cons_ne_nil m cs)
      exact ⟨inlineText [n] ++ u, v, by rw [inlineText_cons, htext, List.append_assoc], hblank,
        hopen⟩

theorem isBlankLine_inlineText (hne : cs ≠ []) : isBlankLine (inlineText cs) = false := by
  obtain ⟨u, v, htext, hblank, -⟩ := exists_end_of_inlineText h hne
  rw [htext, isBlankLine, List.all_append, Bool.and_eq_false_iff]
  exact .inr hblank

/-- A line opens the image block that its nodes say. -/
theorem image?_inlineText {lead : Text} (hlead : '\x7b' ∉ lead) :
    Opening.image? (lead ++ inlineText cs) = (opened? lead cs).map fun o =>
      (o.layout, Gallery.body o.resource.url o.alt ++ '\x7d' :: inlineText o.after) := by
  -- A text in front joins the lead, so the induction is over every lead.
  induction cs generalizing lead with
  | nil =>
    have hnil : lead ++ inlineText [] = lead := List.append_nil lead
    cases himage : Opening.image? (lead ++ inlineText []) with
    | none => rfl
    | some found => exact absurd (Opening.mem_of_image? (hnil ▸ himage)) hlead
  | cons n cs ih =>
    have hn := h n List.mem_cons_self
    cases n with
    | text t =>
      have hopen : '\x7b' ∉ lead ++ t := by simp [hlead, IsWords.not_mem hn]
      rw [inlineText_cons, inlineText_text, ← List.append_assoc, opened?]
      exact ih (fun m hm => h m (List.mem_cons_of_mem _ hm)) hopen
    | image r alt =>
      rw [image?_image hn.1 hlead, opened?, Option.map_map]
      rfl
    | _ => exact hn.elim

theorem mem_of_opened? {lead : Text} {o : Opened} (ho : opened? lead cs = some o) :
    .image o.resource o.alt ∈ cs := by
  induction cs generalizing lead with
  | nil => cases ho
  | cons n cs ih =>
    have hn := h n List.mem_cons_self
    cases n with
    | text t =>
      exact List.mem_cons_of_mem _ (ih (fun m hm => h m (List.mem_cons_of_mem _ hm)) ho)
    | image r alt =>
      obtain ⟨layout, -, rfl⟩ := Option.map_eq_some_iff.mp ho
      exact List.mem_cons_self
    | _ => exact hn.elim

theorem read?_inlineText (hne : cs ≠ []) : Opening.read? (inlineText cs) =
    (Opening.image? (inlineText cs)).map fun (layout, inside) => .image layout inside := by
  have hplain := all_isPlainChar_inlineText h
  obtain ⟨u, v, htext, hblank, hopen⟩ := exists_end_of_inlineText h hne
  have hlast : (trim (inlineText cs)).getLast? ≠ some '\x7b' := by
    rw [htext]
    exact getLast?_trim_append_ne u hblank hopen
  cases hline : inlineText cs with
  | nil =>
    obtain ⟨rfl, rfl⟩ := List.append_eq_nil_iff.mp (htext.symm.trans hline)
    cases hblank
  | cons c t =>
    rw [hline] at hplain hlast
    have hfronts : Opening.fronts.all (!isPlainChar ·) = true := by decide
    have hc : isPlainChar c = true := (Bool.and_eq_true_iff.mp hplain).1
    exact Opening.read?_eq_image? (not_mem_of_all hfronts (by simp [hc])) hlast

/-- What is read of a paragraph is what its one line begins. -/
theorem ofText_paragraph {c : Chunk} (hne : cs ≠ [])
    (hread : Chunk.read (inlineText cs) [] = (c, [])) :
    Wiki.Block.ofText (document (.paragraph cs)).text = [c.toBlock] := by
  have hplain := all_isPlainChar_inlineText h
  have hline : IsLine (inlineText cs) := ⟨not_mem_of_all hplain rfl, fun hlast =>
    not_mem_of_all hplain rfl (List.mem_of_getLast? hlast)⟩
  rw [paragraph_text (definitionsAll_eq_nil h)]
  exact Chunk.ofText_line hline (isBlankLine_inlineText h hne) hread

theorem ofText_unopened (hne : cs ≠ []) (hnone : opened? [] cs = none) :
    Wiki.Block.ofText (document (.paragraph cs)).text =
      [.paragraph [[.text (trim (inlineText cs))]]] := by
  have himage : Opening.image? (inlineText cs) = _ := image?_inlineText h List.not_mem_nil
  have hread : Opening.read? (inlineText cs) = none := by
    rw [read?_inlineText h hne, himage, hnone]
    rfl
  exact ofText_paragraph h hne
    (read_plain (isBlankLine_inlineText h hne) (all_isPlainChar_inlineText h) hread)

theorem ofText_opened {o : Opened} (ho : opened? [] cs = some o) :
    IsName o.alt ∧ Wiki.Block.ofText (document (.paragraph cs)).text =
      [(Chunk.image o.layout [Gallery.entry o.resource.url o.alt]).toBlock] := by
  have hmem := mem_of_opened? h ho
  obtain ⟨-, hurl, halt⟩ := h _ hmem
  have hne : cs ≠ [] := List.ne_nil_of_mem hmem
  have himage : Opening.image? (inlineText cs) = _ := image?_inlineText h List.not_mem_nil
  have hread : Opening.read? (inlineText cs) = some (.image o.layout
      (Gallery.body o.resource.url o.alt ++ '\x7d' :: inlineText o.after)) := by
    rw [read?_inlineText h hne, himage, ho]
    rfl
  have hbody := Gallery.unbraced_body hurl.unbraced halt.unbraced
  have hchunk := Chunk.read_image hread hbody []
  rw [Gallery.read_body hurl.isTarget halt.isDescription] at hchunk
  exact ⟨halt, ofText_paragraph h hne hchunk⟩

end

/-- A word of a text is read again unless the line opens an image block. Then it is lost, but for
the words that stand in the description of that image, if it is no size. -/
theorem shows_word_iff {cs : List Node} (h : ∀ n ∈ cs, IsTextOrImage n) {t w : Text}
    (ht : .text t ∈ cs) (hw : w ∈ words t) :
    Wiki.Block.Shows (Wiki.Block.ofText (document (.paragraph cs)).text) w ↔
      ∀ o ∈ opened? [] cs, (¬ ∃ width height, Gallery.IsSize o.alt width height) ∧
        w <:+: o.alt := by
  obtain ⟨-, hblank, hinfix⟩ := mem_words hw
  cases ho : opened? [] cs with
  | none =>
    -- The whole line is one text, and trimming takes no word off it.
    have hline : w <:+: inlineText cs := hinfix.trans (isInfix_inlineText ht)
    rw [ofText_unopened h (List.ne_nil_of_mem ht) ho, Wiki.Block.shows_paragraph]
    simpa using isInfix_trim hblank hline
  | some o =>
    obtain ⟨halt, hread⟩ := ofText_opened h ho
    simp only [hread, Option.mem_some_iff, forall_eq']
    by_cases hsize : ∃ width height, Gallery.IsSize o.alt width height
    · obtain ⟨width, height, hsize⟩ := hsize
      rw [Chunk.toBlock_of_isSize hsize, Wiki.Block.shows_image]
      refine iff_of_false (Wiki.Block.not_shows_nil w) fun hall => ?_
      exact hall.1 ⟨width, height, hsize⟩
    · rw [Chunk.toBlock_of_not_isSize hsize, Wiki.Block.shows_image, halt.ofText,
        Wiki.Block.shows_paragraph]
      exact ⟨fun hshown => ⟨hsize, hshown⟩, fun hall => hall.2⟩

/-- Of the text after an image that the text before it opens, only the word that also describes
the image is read again. -/
theorem shows_word_iff_layout :
    let r : Resource := ⟨"a.png".toList, none⟩
    let cs : List Node := [.text "img ".toList, .image r "b.c".toList, .text " c d".toList]
    (∀ n ∈ cs, IsTextOrImage n) ∧ .text " c d".toList ∈ cs ∧
      "c".toList ∈ words " c d".toList ∧ "d".toList ∈ words " c d".toList ∧
      Wiki.Block.Shows (Wiki.Block.ofText (document (.paragraph cs)).text) "c".toList ∧
      ¬ Wiki.Block.Shows (Wiki.Block.ofText (document (.paragraph cs)).text) "d".toList := by
  intro r cs
  have hcs : ∀ n ∈ cs, IsTextOrImage n := by
    have hfirst : IsWords "img ".toList := by decide
    have hlast : IsWords " c d".toList := by decide
    intro n hn
    simp only [cs, List.mem_cons, List.not_mem_nil, or_false] at hn
    rcases hn with rfl | rfl | rfl
    · exact hfirst
    · exact ⟨rfl, by decide, by decide⟩
    · exact hlast
  have ht : .text " c d".toList ∈ cs := by simp [cs]
  have hwords : words " c d".toList = ["c".toList, "d".toList] := by simp [words, isBlank]
  have hc : "c".toList ∈ words " c d".toList := hwords ▸ by decide
  have hd : "d".toList ∈ words " c d".toList := hwords ▸ by decide
  have hopened : opened? [] cs =
      some ⟨some "img".toList, r, "b.c".toList, [.text " c d".toList]⟩ := by
    simp [opened?, Opening.layout?, words, isBlank, cs]
  refine ⟨hcs, ht, hc, hd, ?_, ?_⟩
  · refine (shows_word_iff hcs ht hc).mpr fun o ho => ?_
    rw [hopened] at ho
    cases ho
    exact ⟨by decide, by decide⟩
  · intro hshows
    have hinfix := ((shows_word_iff hcs ht hd).mp hshows _ hopened).2
    exact absurd hinfix (by decide)

/-- A text after an image that begins its paragraph is lost. -/
theorem shows_word_lost :
    Wiki.Block.ofText (document (.paragraph
        [.image ⟨"a.png".toList, none⟩ "x".toList, .text " after".toList])).text =
      [.image none [⟨"a.png".toList, none, none, [.paragraph [[.text "x".toList]]]⟩]] ∧
      ¬ ∀ (cs : List Node) (t w : Text), (∀ n ∈ cs, IsTextOrImage n) → .text t ∈ cs →
        w ∈ words t → Wiki.Block.Shows (Wiki.Block.ofText (document (.paragraph cs)).text) w := by
  have hcs : ∀ n ∈ [.image ⟨"a.png".toList, none⟩ "x".toList, .text " after".toList],
      IsTextOrImage n := by
    have hlast : IsWords " after".toList := by decide
    intro n hn
    simp only [List.mem_cons, List.not_mem_nil, or_false] at hn
    rcases hn with rfl | rfl
    · exact ⟨rfl, by decide, by decide⟩
    · exact hlast
  have hopened : opened? []
      [.image ⟨"a.png".toList, none⟩ "x".toList, .text " after".toList] =
        some ⟨none, ⟨"a.png".toList, none⟩, "x".toList, [.text " after".toList]⟩ := by
    simp [opened?, Opening.layout?, words, isBlank]
  obtain ⟨hx, hread⟩ := ofText_opened hcs hopened
  rw [Chunk.toBlock_of_not_isSize (by decide), hx.ofText] at hread
  refine ⟨hread, fun h => ?_⟩
  have hwords : words " after".toList = ["after".toList] := by simp [words, isBlank]
  have hafter : "after".toList ∈ words " after".toList := hwords ▸ by decide
  have hshows := h _ " after".toList "after".toList hcs (by simp) hafter
  rw [hread, Wiki.Block.shows_image, Wiki.Block.shows_paragraph] at hshows
  exact absurd hshows (by decide)

end Import

end MarkupBridge
