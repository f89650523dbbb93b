import MarkupBridge.Proofs.Framing
import MarkupBridge.Proofs.Isolation
import MarkupBridge.Proofs.Lines

namespace MarkupBridge.Import
open Text Markdown
open Export (Ended ended_newline Ended.append)

/-- What is written last decides. -/
theorem ended_write {t : Text} (ht : Ended t) (d : Draft) : Ended (d.write t).text :=
  ht.append d.text

/-- A rendering that leaves no line open, if it writes anything. -/
def EndsLine (f : Draft → Draft) : Prop := ∀ d, (f d).text = d.text ∨ Ended (f d).text

namespace EndsLine

theorem of_ended {f : Draft → Draft} (hf : ∀ d, Ended (f d).text) : EndsLine f :=
  fun d => .inr (hf d)

theorem comp {f g : Draft → Draft} (hf : EndsLine f) (hg : EndsLine g) :
    EndsLine fun d => g (f d) := by
  intro d
  rcases hg (f d) with h | h
  · rw [h]
    exact hf d
  · exact .inr h

theorem within {f : Draft → Draft} (hf : EndsLine f) (s : Scope) :
    EndsLine fun d => (f (d.enter s)).exit :=
  fun d => hf (d.enter s)

/-- Text set aside is nothing or ends with its line. -/
theorem capture_ended {f : Draft → Draft} (hf : EndsLine f) (d : Draft) :
    (d.capture f).1 = [] ∨ Ended (d.capture f).1 :=
  hf { d with text := [] }

end EndsLine

theorem code_ended (lang : Option Text) (value : Text) : Ended (code lang value) := by
  have hfence : Ended "\x60\x60\x60\n".toList := by decide
  exact hfence.append _

mutual

/-- No node leaves a line open, whatever it stands in. -/
theorem block_endsLine : (n : Node) → EndsLine (block n)
  | .root cs => by
    intro d
    rw [block]
    exact separated_endsLine cs d
  | .heading _ _ | .thematicBreak | .table _ _ => by
    apply EndsLine.of_ended
    intro d
    rw [block]
    exact ended_write (by decide) _
  | .code lang _ value => by
    apply EndsLine.of_ended
    intro d
    rw [block]
    exact ended_write (code_ended lang value) d
  | .html value => by
    apply EndsLine.of_ended
    intro d
    rw [block]
    exact ended_write (ended_newline value) d
  | .paragraph cs => by
    intro d
    rw [block]
    split
    · exact .inr (ended_write (by decide) _)
    · exact .inl rfl
  | .list ordered _ _ cs => by
    intro d
    rw [block]
    exact (blocks_endsLine cs).within (.list ordered) d
  | .listItem checked _ cs => by
    have hline : EndsLine fun d => (itemText true cs (d.write (List.replicate (d.listDepth - 1) '\t'
        ++ itemMarker checked d ++ [' ']))).write ['\n'] :=
      .of_ended fun d => ended_write (by decide) _
    intro d
    rw [block]
    exact (hline.comp ((blocks_endsLine cs).within .item)) d
  | .blockquote cs => by
    intro d
    rw [block]
    exact (quoted_endsLine cs).within .quote d
  | .math _ _ | .definition _ _ | .footnoteDefinition _ _ | .tableRow _ | .tableCell _ | .yaml _
  | .toml _ | .flowElement _ | .text _ | .emphasis _ | .strong _ | .delete _ | .inlineCode _
  | .inlineMath _ | .lineBreak | .link _ _ | .image _ _ | .linkReference _ _ _
  | .imageReference _ _ _ | .footnoteReference _ | .textElement _ | .expression _ => by
    intro d
    simp [block]

theorem blocks_endsLine : (ns : List Node) → EndsLine (blocks ns)
  | [] => fun _ => .inl rfl
  | n :: ns => by
    intro d
    rw [blocks]
    exact (block_endsLine n).comp (blocks_endsLine ns) d

theorem separated_endsLine : (ns : List Node) → EndsLine (separated ns)
  | [] => fun _ => .inl rfl
  | n :: ns => by
    have hfirst : EndsLine fun d => if (d.capture (block n)).1.isEmpty then (d.capture (block n)).2
        else (d.capture (block n)).2.startBlock.write (d.capture (block n)).1 := by
      intro d
      dsimp only
      rcases (block_endsLine n).capture_ended d with h | h
      · rw [h]
        exact .inl rfl
      · split
        · exact .inl rfl
        · exact .inr (ended_write h _)
    intro d
    rw [separated]
    exact hfirst.comp (separated_endsLine ns) d

theorem quoted_endsLine : (ns : List Node) → EndsLine (quoted ns)
  | [] => fun _ => .inl rfl
  | n :: ns => by
    have hfirst : EndsLine fun d => quoted [n] d := by
      apply EndsLine.of_ended
      intro d
      cases hp : n.isParagraph
      · rw [quoted_cons hp, quoted]
        exact ended_write (ended_newline _) _
      · obtain ⟨cs, rfl⟩ := Node.eq_of_isParagraph hp
        rw [quoted, quoted]
        exact ended_write (by decide) _
    have hsplit : ∀ d, quoted (n :: ns) d = quoted ns (quoted [n] d) := by
      intro d
      cases n <;> simp only [quoted]
    intro d
    rw [hsplit]
    exact hfirst.comp (quoted_endsLine ns) d

end

/-- The texts that blocks write alone, those that are not empty. -/
def fragments (d : Draft) (ns : List Node) : List Text :=
  (ns.map fun n => (block n d.fresh).text).filter (!·.isEmpty)

/-- A blank line stands before a block that has one before it, and only there. -/
theorem separated_text {ns : List Node} (h : Node.haveRoot ns = false) (d : Draft) :
    (separated ns d).text = d.text ++
      if d.wroteBlock then (fragments d ns).flatMap (['\n'] ++ ·)
      else join ['\n'] (fragments d ns) := by
  induction ns generalizing d with
  | nil => cases hd : d.wroteBlock <;> simp [separated, fragments, join]
  | cons n ns ih =>
    obtain ⟨hn, hns⟩ := Bool.or_eq_false_iff.mp h
    rw [separated, (block_frames n hn).capture_eq]
    show (separated ns (if (block n d.fresh).text.isEmpty then d else
      d.startBlock.write (block n d.fresh).text)).text = _
    by_cases hnil : (block n d.fresh).text.isEmpty = true
    · have hskip : fragments d (n :: ns) = fragments d ns := by simp [fragments, hnil]
      rw [if_pos hnil, ih hns, hskip]
    · have hfirst : fragments d (n :: ns) = (block n d.fresh).text :: fragments d ns := by
        simp [fragments, hnil]
      have hstart : d.startBlock.text = d.text ++ if d.wroteBlock then ['\n'] else [] := by
        unfold Draft.startBlock
        cases d.wroteBlock <;> simp
      rw [if_neg hnil, ih hns, hfirst, join_cons, Draft.write_text, hstart]
      show _ ++ (fragments d ns).flatMap _ = _
      cases d.wroteBlock <;> simp

theorem isRoot_eq_false {n : Node} (h : n.hasRoot = false) : isRoot n = false := by
  cases n with
  | root cs => cases h
  | _ => rfl

/-- A node without roots and definitions in it is written alone as on an empty draft. -/
theorem document_text_alone {n : Node} (hroot : n.hasRoot = false) (hdefs : n.definitions = []) :
    (document n).text = (block n .empty).text := by
  rw [document_text (isRoot_eq_false hroot), block_frames n hroot]
  show (block n ⟨[], [.root], false, (define n.definitions .empty).definitions⟩).text = _
  rw [hdefs]
  rfl

theorem fragments_eq_documents {ns : List Node} (hroot : Node.haveRoot ns = false)
    (hdefs : Node.definitionsAll ns = []) :
    fragments .empty ns = (ns.map fun n => (document n).text).filter (!·.isEmpty) := by
  unfold fragments
  congr 1
  induction ns with
  | nil => rfl
  | cons n ns ih =>
    obtain ⟨hn, hns⟩ := Bool.or_eq_false_iff.mp hroot
    obtain ⟨hd, hds⟩ := List.append_eq_nil_iff.mp hdefs
    rw [List.map_cons, List.map_cons, ih hns hds, document_text_alone hn hd]
    rfl

/-- Nothing stands before the only block. -/
theorem separated_singleton {n : Node} (h : n.hasRoot = false) {d : Draft}
    (hd : d.wroteBlock = false) : (separated [n] d).text = (block n d.startBlock).text := by
  have hstart : d.startBlock.text = d.text := by simp [Draft.startBlock, hd]
  simp only [separated, (block_frames n h).capture_eq]
  rw [block_frames n h d.startBlock]
  show (if (block n d.fresh).text.isEmpty then d else
    d.startBlock.write (block n d.fresh).text).text =
      (d.startBlock.write (block n d.fresh).text).text
  split
  · next hnil => rw [List.isEmpty_iff.mp hnil, Draft.write_nil, hstart]
  · rfl

/-- A node that is no root is converted like the only child of one. -/
theorem document_eq_root {n : Node} (h : n.hasRoot = false) :
    document n = document (.root [n]) := by
  have hdefs : (Node.root [n]).definitions = n.definitions := by
    simp [Node.definitions, Node.definitionsAll]
  have hfirst : (define n.definitions .empty).wroteBlock = false := by
    rw [define_eq]
    rfl
  have htext := separated_singleton h hfirst
  show (block n (if isRoot n then _ else _)).finish =
    (separated [n] (define (Node.root [n]).definitions .empty)).finish
  rw [isRoot_eq_false h, if_neg Bool.false_ne_true, hdefs]
  unfold Draft.finish
  rw [htext]

theorem document_ended (n : Node) : (document n).text = [] ∨ Ended (document n).text := by
  have hempty : (if isRoot n then define n.definitions .empty
      else (define n.definitions .empty).startBlock).text = [] := by
    rw [define_eq]
    split
    · rfl
    · rfl
  have hblock := block_endsLine n (if isRoot n then define n.definitions .empty
    else (define n.definitions .empty).startBlock)
  rw [hempty] at hblock
  exact hblock

/-- The blocks of a document without definitions are what they are alone, with a blank line between
any two of those that write something. -/
theorem document_separated {ns : List Node} (hroot : Node.haveRoot ns = false)
    (hdefs : Node.definitionsAll ns = []) :
    (document (.root ns)).text =
        join ['\n'] ((ns.map fun n => (document n).text).filter (!·.isEmpty)) ∧
      (∀ n ∈ ns, (document n).text ≠ [] → Ended (document n).text) ∧
      ∀ n : Node, n.hasRoot = false → document n = document (.root [n]) := by
  refine ⟨?_, fun n _ hne => (document_ended n).resolve_left hne, fun n hn => document_eq_root hn⟩
  show (separated ns (define (Node.definitionsAll ns) .empty)).text = _
  rw [hdefs, ← fragments_eq_documents hroot hdefs]
  exact separated_text hroot .empty

/-- An empty quote and a footnote write nothing and leave no blank line between a heading and a
list; the paragraph at the top is written, and the one in an item is written by the item. -/
theorem document_separated_silent :
    Node.haveRoot [.heading 1 [.text ['a']], .blockquote [], .footnoteDefinition ⟨['f'], none⟩
      [.paragraph [.text ['b']]], .list true none false [.listItem none false
        [.paragraph [.text ['c']]]], .paragraph [.text ['d']]] = false ∧
    Node.definitionsAll [.heading 1 [.text ['a']], .blockquote [], .footnoteDefinition ⟨['f'], none⟩
      [.paragraph [.text ['b']]], .list true none false [.listItem none false
        [.paragraph [.text ['c']]]], .paragraph [.text ['d']]] = [] ∧
    (document (.root [.heading 1 [.text ['a']], .blockquote [], .footnoteDefinition ⟨['f'], none⟩
      [.paragraph [.text ['b']]], .list true none false [.listItem none false
        [.paragraph [.text ['c']]]], .paragraph [.text ['d']]])).text =
      "= a\n\n*. c\n\nd\n".toList :=
  ⟨rfl, rfl, (document_separated rfl rfl).1.trans (by decide)⟩

end MarkupBridge.Import
