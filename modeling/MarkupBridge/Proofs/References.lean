import MarkupBridge.Proofs.Framing

namespace MarkupBridge

namespace Markdown
open Text

/-- Labels that agree up to case and the blanks between words. -/
def Label.agrees (l m : Label) : Bool :=
  lower (join [' '] (Text.words l.identifier)) == lower (join [' '] (Text.words m.identifier))

/-- What a label stands for among definitions: the first of those it agrees with. -/
def Label.target? (label : Label) (definitions : List (Label × Resource)) : Option Resource :=
  (definitions.find? (·.1.agrees label)).map (·.2)

namespace Node

-- A link has its title from `title`: nothing is said about it, and nothing is written of it.
variable (title : Resource → Option Text) (definitions : List (Label × Resource))

mutual

/-- The tree with a link or an image for every reference that has a definition. -/
def resolved : Node → Node
  | linkReference kind label cs => match label.target? definitions with
    | some r => link ⟨r.url, title r⟩ (resolvedAll cs)
    | none => linkReference kind label (resolvedAll cs)
  | imageReference kind label alt => match label.target? definitions with
    | some r => image r alt
    | none => imageReference kind label alt
  | root cs => root (resolvedAll cs)
  | paragraph cs => paragraph (resolvedAll cs)
  | heading depth cs => heading depth (resolvedAll cs)
  | blockquote cs => blockquote (resolvedAll cs)
  | list ordered start spread cs => list ordered start spread (resolvedAll cs)
  | listItem checked spread cs => listItem checked spread (resolvedAll cs)
  | footnoteDefinition label cs => footnoteDefinition label (resolvedAll cs)
  | table align cs => table align (resolvedAll cs)
  | tableRow cs => tableRow (resolvedAll cs)
  | tableCell cs => tableCell (resolvedAll cs)
  | flowElement cs => flowElement (resolvedAll cs)
  | emphasis cs => emphasis (resolvedAll cs)
  | strong cs => strong (resolvedAll cs)
  | delete cs => delete (resolvedAll cs)
  | link r cs => link r (resolvedAll cs)
  | textElement cs => textElement (resolvedAll cs)
  | n => n

def resolvedAll : List Node → List Node
  | [] => []
  | n :: ns => resolved n :: resolvedAll ns

end

mutual

/-- Resolving leaves the definitions where they are. -/
theorem definitions_resolved (ds : List (Label × Resource)) :
    (n : Node) → (n.resolved title ds).definitions = n.definitions
  | linkReference kind label cs => by
    rw [resolved, Node.definitions]
    split
    · exact definitionsAll_resolvedAll ds cs
    · exact definitionsAll_resolvedAll ds cs
  | imageReference kind label alt => by
    rw [resolved]
    split
    · rfl
    · rfl
  | root cs | paragraph cs | heading _ cs | blockquote cs | list _ _ _ cs | listItem _ _ cs
  | footnoteDefinition _ cs | table _ cs | tableRow cs | tableCell cs | flowElement cs | emphasis cs
  | strong cs | delete cs | link _ cs | textElement cs => by
    rw [resolved, Node.definitions, Node.definitions]
    exact definitionsAll_resolvedAll ds cs
  | thematicBreak | code _ _ _ | math _ _ | html _ | definition _ _ | yaml _ | toml _ | text _
  | inlineCode _ | inlineMath _ | lineBreak | image _ _ | footnoteReference _ | expression _ => by
    simp only [resolved]

theorem definitionsAll_resolvedAll (ds : List (Label × Resource)) :
    (ns : List Node) → definitionsAll (resolvedAll title ds ns) = definitionsAll ns
  | [] => by
    rw [resolvedAll]
  | n :: ns => by
    rw [resolvedAll, definitionsAll, definitions_resolved ds n, definitionsAll_resolvedAll ds ns,
      definitionsAll]

end

theorem isParagraph_resolved (n : Node) :
    (n.resolved title definitions).isParagraph = n.isParagraph := by
  cases n with
  | linkReference kind label cs | imageReference kind label alt =>
    rw [resolved]
    split
    · rfl
    · rfl
  | _ => simp only [resolved, isParagraph]

/-- Resolving makes no strong text that was none before. -/
theorem eq_strong_of_resolvedAll {cs ds : List Node}
    (h : resolvedAll title definitions cs = [strong ds]) : ∃ es, cs = [strong es] := by
  match cs, h with
  | [n], h =>
    rw [resolvedAll, resolvedAll, List.cons_eq_cons] at h
    cases n with
    | strong es => exact ⟨es, rfl⟩
    | linkReference kind label cs | imageReference kind label alt =>
      rw [resolved] at h
      split at h
      · cases h.1
      · cases h.1
    | _ => simp [resolved] at h
  | [], h => simp [resolvedAll] at h
  | _ :: _ :: _, h => simp [resolvedAll] at h

end Node
end Markdown

namespace Import
open Text Markdown Node

/-- A draft with these definitions. -/
def Knows (definitions : List (Label × Resource)) (d : Draft) : Prop :=
  ∀ label : Label, d.definition? label.identifier = label.target? definitions

/-- Renderings that do the same on a draft with the definitions at hand, which stay at hand. -/
def Alike (definitions : List (Label × Resource)) (f g : Draft → Draft) : Prop :=
  ∀ d, Knows definitions d → f d = g d ∧ Knows definitions (g d)

variable {title : Resource → Option Text} {definitions : List (Label × Resource)}

theorem Knows.congr {d e : Draft} (h : Knows definitions d) (he : e.definitions = d.definitions) :
    Knows definitions e := by
  intro label
  rw [← h label]
  unfold Draft.definition?
  rw [he]

namespace Alike

theorem of_definitions {f : Draft → Draft} (hf : ∀ d, (f d).definitions = d.definitions) :
    Alike definitions f f :=
  fun d hd => ⟨rfl, hd.congr (hf d)⟩

theorem write (t : Text) : Alike definitions (·.write t) (·.write t) :=
  of_definitions fun _ => rfl

theorem comp {f f' g g' : Draft → Draft} (hf : Alike definitions f f')
    (hg : Alike definitions g g') : Alike definitions (fun d => g (f d)) fun d => g' (f' d) := by
  intro d hd
  obtain ⟨heq, hknows⟩ := hf d hd
  dsimp only
  rw [heq]
  exact hg _ hknows

theorem enclosed {f g : Draft → Draft} (h : Alike definitions f g) (before after : Text) :
    Alike definitions (fun d => (f (d.write before)).write after)
      fun d => (g (d.write before)).write after :=
  ((write before).comp h).comp (write after)

theorem within {f g : Draft → Draft} (h : Alike definitions f g) (s : Scope) :
    Alike definitions (fun d => (f (d.enter s)).exit) fun d => (g (d.enter s)).exit :=
  ((of_definitions (f := fun d => d.enter s) fun _ => rfl).comp h).comp
    (of_definitions (f := fun d => d.exit) fun _ => rfl)

theorem capture_eq {f g : Draft → Draft} (h : Alike definitions f g) {d : Draft}
    (hd : Knows definitions d) :
    d.capture f = d.capture g ∧ Knows definitions (d.capture g).2 := by
  have hempty : Knows definitions { d with text := [] } := hd.congr rfl
  obtain ⟨heq, hknows⟩ := h _ hempty
  refine ⟨?_, hknows.congr rfl⟩
  unfold Draft.capture
  rw [heq]

theorem capture {f g : Draft → Draft} {k m : Text → Draft → Draft} (h : Alike definitions f g)
    (hk : ∀ t, Alike definitions (k t) (m t)) :
    Alike definitions (fun d => k (d.capture f).1 (d.capture f).2)
      fun d => m (d.capture g).1 (d.capture g).2 := by
  intro d hd
  obtain ⟨heq, hknows⟩ := h.capture_eq hd
  dsimp only
  rw [heq]
  exact hk _ _ hknows

end Alike

theorem inline_alike (n : Node) : Alike definitions (inline n) (inline n) := by
  apply Alike.of_definitions
  intro d
  rw [inline_frames (l := .inline) n d]
  rfl

theorem emphasis_resolved {cs : List Node}
    (hcs : Alike definitions (inlines (resolvedAll title definitions cs)) (inlines cs))
    (hinner : ∀ ds, cs = [.strong ds] →
      Alike definitions (inlines (resolvedAll title definitions ds)) (inlines ds)) :
    Alike definitions (inline (.emphasis (resolvedAll title definitions cs)))
      (inline (.emphasis cs)) := by
  intro d hd
  by_cases h : ∃ ds, cs = [.strong ds]
  · obtain ⟨ds, rfl⟩ := h
    simp only [resolvedAll, resolved, inline]
    exact (hinner ds rfl).enclosed _ _ d hd
  · have hresolved : ∀ ds, resolvedAll title definitions cs = [.strong ds] → False :=
      fun ds he => h (eq_strong_of_resolvedAll title definitions he)
    rw [inline.eq_5 d cs fun ds he => h ⟨ds, he⟩, inline.eq_5 d _ hresolved]
    exact hcs.enclosed _ _ d hd

theorem linkReference_resolved (kind : ReferenceKind) (label : Label) {cs : List Node}
    (hcs : Alike definitions (inlines (resolvedAll title definitions cs)) (inlines cs)) :
    Alike definitions (inline (resolved title definitions (.linkReference kind label cs)))
      (inline (.linkReference kind label cs)) := by
  intro d hd
  rw [resolved, inline.eq_10, hd label]
  cases hr : label.target? definitions with
  | some r =>
    rw [inline]
    exact hcs.capture (k := link r.url) (m := link r.url) (fun t => .write _) d hd
  | none =>
    have hlabel : Alike definitions (referenceLabel kind label) (referenceLabel kind label) := by
      apply Alike.of_definitions
      intro d
      cases kind <;> rfl
    rw [inline, hd label, hr]
    exact (hcs.enclosed ['['] [']']).comp hlabel d hd

theorem imageReference_resolved (kind : ReferenceKind) (label : Label) (alt : Text) :
    Alike definitions (inline (resolved title definitions (.imageReference kind label alt)))
      (inline (.imageReference kind label alt)) := by
  intro d hd
  refine ⟨?_, (inline_alike _ d hd).2⟩
  rw [resolved]
  cases hr : label.target? definitions with
  | some r => simp only [inline, imageReference, hd label, hr]
  | none => rfl

mutual

theorem inline_resolved : (n : Node) →
    Alike definitions (inline (n.resolved title definitions)) (inline n)
  | .emphasis cs => by
    simp only [resolved]
    exact emphasis_resolved (inlines_resolved cs) fun ds _ => inlines_resolved ds
  | .strong cs | .delete cs => by
    intro d hd
    simp only [resolved, inline]
    exact (inlines_resolved cs).enclosed _ _ d hd
  | .link r cs => by
    intro d hd
    simp only [resolved, inline]
    exact (inlines_resolved cs).capture (k := link r.url) (m := link r.url)
      (fun t => .write _) d hd
  | .linkReference kind label cs => linkReference_resolved kind label (inlines_resolved cs)
  | .imageReference kind label alt => imageReference_resolved kind label alt
  | .root cs | .paragraph cs | .heading _ cs | .blockquote cs | .list _ _ _ cs | .listItem _ _ cs
  | .footnoteDefinition _ cs | .table _ cs | .tableRow cs | .tableCell cs | .flowElement cs
  | .textElement cs => by
    intro d hd
    simp only [resolved, inline]
    exact inlines_resolved cs d hd
  | .text _ | .lineBreak | .inlineCode _ | .html _ | .image _ _ | .thematicBreak | .code _ _ _
  | .math _ _ | .definition _ _ | .yaml _ | .toml _ | .inlineMath _ | .footnoteReference _
  | .expression _ => by
    simp only [resolved]
    exact inline_alike _

theorem inlines_resolved : (ns : List Node) →
    Alike definitions (inlines (resolvedAll title definitions ns)) (inlines ns)
  | [] => .of_definitions fun _ => rfl
  | n :: ns => by
    intro d hd
    simp only [resolvedAll, inlines]
    exact (inline_resolved n).comp (inlines_resolved ns) d hd

end

theorem itemText_resolved (first : Bool) (ns : List Node) :
    Alike definitions (itemText first (resolvedAll title definitions ns)) (itemText first ns) := by
  induction ns generalizing first with
  | nil => exact .of_definitions fun _ => rfl
  | cons n ns ih =>
    intro d hd
    cases n with
    | paragraph cs =>
      have hgap : Alike definitions (fun d => if first then d else d.write [' '])
          fun d => if first then d else d.write [' '] :=
        .of_definitions fun d => by cases first <;> rfl
      simp only [resolvedAll, resolved, itemText]
      exact (hgap.comp (inlines_resolved cs)).comp (ih false) d hd
    | linkReference kind label cs | imageReference kind label alt =>
      rw [resolvedAll, resolved]
      split
      · simp only [itemText]
        exact ih first d hd
      · simp only [itemText]
        exact ih first d hd
    | _ =>
      simp only [resolvedAll, resolved, itemText]
      exact ih first d hd

theorem cells_resolved (align : List (Option Align)) (ns : List Node) {d : Draft}
    (hd : Knows definitions d) :
    cells align (resolvedAll title definitions ns) d = cells align ns d := by
  induction ns generalizing align d with
  | nil => rfl
  | cons n ns ih =>
    cases n with
    | tableCell cs =>
      have hcs : Alike definitions (inlines (resolvedAll title definitions cs)) (inlines cs) :=
        inlines_resolved cs
      obtain ⟨hcell, hknows⟩ := hcs.capture_eq hd
      simp only [resolvedAll, resolved, cells, hcell, ih align.tail hknows]
    | linkReference kind label cs | imageReference kind label alt =>
      rw [resolvedAll, resolved]
      split
      · simp only [cells]
        exact ih align.tail hd
      · simp only [cells]
        exact ih align.tail hd
    | _ =>
      simp only [resolvedAll, resolved, cells]
      exact ih align.tail hd

theorem rows_resolved (align : List (Option Align)) (ns : List Node) :
    Alike definitions (rows align (resolvedAll title definitions ns)) (rows align ns) := by
  induction ns with
  | nil => exact .of_definitions fun _ => rfl
  | cons n ns ih =>
    intro d hd
    cases n with
    | tableRow cs =>
      have hrow : cells align (resolvedAll title definitions cs) d = cells align cs d :=
        cells_resolved align cs hd
      simp only [resolvedAll, resolved, rows, hrow, cells_eq align cs d]
      exact ih _ (hd.congr rfl)
    | linkReference kind label cs | imageReference kind label alt =>
      rw [resolvedAll, resolved]
      split
      · simp only [rows]
        exact ih d hd
      · simp only [rows]
        exact ih d hd
    | _ =>
      simp only [resolvedAll, resolved, rows]
      exact ih d hd

mutual

theorem block_resolved : (n : Node) →
    Alike definitions (block (n.resolved title definitions)) (block n)
  | .root cs => by
    intro d hd
    simp only [resolved, block]
    exact separated_resolved cs d hd
  | .heading depth cs => by
    intro d hd
    simp only [resolved, block]
    exact (inlines_resolved cs).enclosed _ _ d hd
  | .paragraph cs => by
    intro d hd
    simp only [resolved, block]
    split
    · exact (inlines_resolved cs).comp (.write _) d hd
    · exact ⟨rfl, hd⟩
  | .list ordered _ _ cs => by
    intro d hd
    simp only [resolved, block]
    exact (blocks_resolved cs).within (.list ordered) d hd
  | .listItem checked _ cs => by
    have hmarker : Alike definitions
        (fun d => d.write (List.replicate (d.listDepth - 1) '\t' ++ itemMarker checked d ++ [' ']))
        fun d => d.write (List.replicate (d.listDepth - 1) '\t' ++ itemMarker checked d ++ [' ']) :=
      .of_definitions fun _ => rfl
    intro d hd
    simp only [resolved, block]
    exact ((hmarker.comp (itemText_resolved true cs)).comp (.write _)).comp
      ((blocks_resolved cs).within .item) d hd
  | .blockquote cs => by
    intro d hd
    simp only [resolved, block]
    exact (quoted_resolved cs).within .quote d hd
  | .table align cs => by
    intro d hd
    simp only [resolved, block]
    exact (rows_resolved align cs).enclosed _ _ d hd
  | .linkReference kind label cs | .imageReference kind label alt => by
    intro d hd
    refine ⟨?_, hd⟩
    rw [resolved]
    split
    · simp only [block]
    · simp only [block]
  | .code _ _ _ | .thematicBreak | .html _ | .math _ _ | .definition _ _ | .footnoteDefinition _ _
  | .tableRow _ | .tableCell _ | .yaml _ | .toml _ | .flowElement _ | .text _ | .emphasis _
  | .strong _ | .delete _ | .inlineCode _ | .inlineMath _ | .lineBreak | .link _ _ | .image _ _
  | .footnoteReference _ | .textElement _ | .expression _ => by
    intro d hd
    simp only [resolved, block]
    exact ⟨trivial, hd.congr rfl⟩

theorem blocks_resolved : (ns : List Node) →
    Alike definitions (blocks (resolvedAll title definitions ns)) (blocks ns)
  | [] => .of_definitions fun _ => rfl
  | n :: ns => by
    intro d hd
    simp only [resolvedAll, blocks]
    exact (block_resolved n).comp (blocks_resolved ns) d hd

theorem separated_resolved : (ns : List Node) →
    Alike definitions (separated (resolvedAll title definitions ns)) (separated ns)
  | [] => .of_definitions fun _ => rfl
  | n :: ns => by
    have hwrite : ∀ t : Text, Alike definitions
        (fun d => if t.isEmpty then d else d.startBlock.write t)
        fun d => if t.isEmpty then d else d.startBlock.write t := by
      intro t
      apply Alike.of_definitions
      intro d
      split
      · rfl
      · rfl
    intro d hd
    simp only [resolvedAll, separated]
    exact (block_resolved n).capture (fun t => (hwrite t).comp (separated_resolved ns)) d hd

theorem quoted_resolved : (ns : List Node) →
    Alike definitions (quoted (resolvedAll title definitions ns)) (quoted ns)
  | [] => .of_definitions fun _ => rfl
  | n :: ns => by
    have hrest := quoted_resolved ns
    intro d hd
    cases hp : n.isParagraph
    · have hp' := (isParagraph_resolved title definitions n).trans hp
      rw [resolvedAll, quoted_cons hp', quoted_cons hp]
      exact (Alike.write ['>', ' ']).comp ((block_resolved n).capture
        (k := fun t d => quoted (resolvedAll title definitions ns)
          (d.write (dropEndWhile (· == '\n') t ++ ['\n'])))
        (m := fun t d => quoted ns (d.write (dropEndWhile (· == '\n') t ++ ['\n'])))
        fun t => (Alike.write _).comp hrest) d hd
    · obtain ⟨cs, rfl⟩ := eq_of_isParagraph hp
      simp only [resolvedAll, resolved, quoted]
      exact ((inlines_resolved cs).enclosed ['>', ' '] ['\n']).comp hrest d hd

end

/-- One more definition is found where none was before. -/
theorem definition?_define_one (label : Label) (r : Resource) (d : Draft) (identifier : Text) :
    (d.define label.identifier r).definition? identifier = (d.definition? identifier).or
      (if definitionKey label.identifier = definitionKey identifier then some r else none) := by
  unfold Draft.define
  split
  · next old hold =>
    split
    · next hkey =>
      have hfound : d.definition? identifier = some old := by
        rw [← hold]
        unfold Draft.definition?
        rw [hkey]
      rw [hfound]
      rfl
    · rw [Option.or_none]
  · show (d.definitions ++ [(definitionKey label.identifier, r)]).lookup _ = _
    rw [List.lookup_append]
    congr 1
    by_cases hkey : definitionKey label.identifier = definitionKey identifier
    · simp [hkey]
    · have hne : (definitionKey identifier == definitionKey label.identifier) = false :=
        beq_false_of_ne (Ne.symm hkey)
      simp [List.lookup_cons, hkey, hne]

/-- The first definition of a label is the one that counts. -/
theorem definition?_define (label : Label) (ds : List (Label × Resource)) (d : Draft) :
    (define ds d).definition? label.identifier =
      (d.definition? label.identifier).or (label.target? ds) := by
  induction ds generalizing d with
  | nil => exact (Option.or_none).symm
  | cons p ds ih =>
    obtain ⟨other, r⟩ := p
    show (define ds (d.define other.identifier r)).definition? label.identifier = _
    rw [ih, definition?_define_one, Option.or_assoc]
    congr 1
    by_cases hkey : definitionKey other.identifier = definitionKey label.identifier
    · have hagrees : other.agrees label = true := beq_iff_eq.mpr hkey
      simp [Label.target?, hkey, hagrees]
    · have hdiffers : other.agrees label = false := beq_false_of_ne hkey
      simp [Label.target?, hkey, hdiffers]

theorem isRoot_resolved (n : Node) : isRoot (n.resolved title definitions) = isRoot n := by
  cases n with
  | linkReference kind label cs | imageReference kind label alt =>
    rw [resolved]
    split
    · rfl
    · rfl
  | _ => simp only [resolved, isRoot]

/-- A document is converted as if its references were the links and images that they stand for. -/
theorem document_resolved (title : Resource → Option Text) (tree : Node) :
    document (tree.resolved title tree.definitions) = document tree := by
  have hknows : Knows tree.definitions (define tree.definitions .empty) :=
    fun label => definition?_define label tree.definitions .empty
  have hstart : Knows tree.definitions (define tree.definitions .empty).startBlock :=
    hknows.congr rfl
  unfold document
  rw [definitions_resolved, isRoot_resolved]
  dsimp only
  split
  · rw [(block_resolved tree _ hknows).1]
  · rw [(block_resolved tree _ hstart).1]

end Import
end MarkupBridge
