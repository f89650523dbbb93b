import MarkupBridge.Import.Document
import Mathlib.Logic.Function.Basic

namespace MarkupBridge

namespace Markdown.Node

mutual

/-- Whether a node is a root or has one in it. -/
def hasRoot : Node → Bool
  | root _ => true
  | paragraph cs | heading _ cs | blockquote cs | list _ _ _ cs | listItem _ _ cs
  | footnoteDefinition _ cs | table _ cs | tableRow cs | tableCell cs | flowElement cs | emphasis cs
  | strong cs | delete cs | link _ cs | linkReference _ _ cs | textElement cs => haveRoot cs
  | _ => false

def haveRoot : List Node → Bool
  | [] => false
  | n :: ns => hasRoot n || haveRoot ns

end

def isParagraph : Node → Bool
  | paragraph _ => true
  | _ => false

theorem eq_of_isParagraph {n : Node} (h : n.isParagraph = true) : ∃ cs, n = .paragraph cs := by
  cases n with
  | paragraph cs => exact ⟨cs, rfl⟩
  | _ => cases h

end Markdown.Node

namespace Import
open Text Markdown

namespace Draft

@[simp] theorem write_text (t : Text) (d : Draft) : (d.write t).text = d.text ++ t := rfl

@[simp] theorem write_nil (d : Draft) : d.write [] = d := by simp [write]

theorem write_write (t u : Text) (d : Draft) : (d.write t).write u = d.write (t ++ u) := by
  simp [write]

/-- A draft without its text, its next block the first. -/
def fresh (d : Draft) : Draft := { d with text := [], wroteBlock := false }

/-- A fresh draft with the definitions alone. -/
def bare (d : Draft) : Draft := ⟨[], [], false, d.definitions⟩

end Draft

/-- Inline nodes are written without a look at the scopes they are in. -/
inductive Level where
  | block
  | inline

/-- What a draft still holds for a rendering that begins anew. -/
def Level.reset : Level → Draft → Draft
  | block, d => d.fresh
  | inline, d => d.bare

namespace Level

@[simp] theorem reset_text (l : Level) (d : Draft) : (l.reset d).text = [] := by
  cases l <;> rfl

theorem reset_of_text (l : Level) (t : Text) (d : Draft) :
    l.reset { d with text := t } = l.reset d := by
  cases l <;> rfl

end Level

/-- Drafts with the same definition for every label and, unless inline nodes are written, the same
scopes. -/
def Level.Agree : Level → Draft → Draft → Prop
  | block, d, e => d.scopes = e.scopes ∧ ∀ i, d.definition? i = e.definition? i
  | inline, d, e => ∀ i, d.definition? i = e.definition? i

variable {l : Level}

namespace Level.Agree

variable {d e : Draft}

theorem definition?_eq (h : l.Agree d e) (i : Text) : d.definition? i = e.definition? i := by
  cases l
  · exact h.2 i
  · exact h i

theorem of_text (h : l.Agree d e) (t u : Text) :
    l.Agree { d with text := t } { e with text := u } := by
  cases l <;> exact h

theorem write (h : l.Agree d e) (t : Text) : l.Agree (d.write t) (e.write t) := h.of_text _ _

theorem enter (h : block.Agree d e) (s : Scope) : block.Agree (d.enter s) (e.enter s) :=
  ⟨congrArg (s :: ·) h.1, h.2⟩

theorem isTopLevel_eq (h : block.Agree d e) : d.isTopLevel = e.isTopLevel := by
  rw [Draft.isTopLevel, Draft.scope, h.1]
  rfl

theorem listDepth_eq (h : block.Agree d e) : d.listDepth = e.listDepth := by
  rw [Draft.listDepth, h.1]
  rfl

theorem inOrderedList_eq (h : block.Agree d e) : d.inOrderedList = e.inOrderedList := by
  rw [Draft.inOrderedList, h.1]
  rfl

theorem self_reset (l : Level) (d : Draft) : l.Agree d (l.reset d) := by
  cases l
  · exact ⟨rfl, fun _ => rfl⟩
  · exact fun _ => rfl

theorem reset (h : l.Agree d e) : l.Agree (l.reset d) (l.reset e) := by
  cases l
  · exact ⟨h.1, h.2⟩
  · exact h

end Level.Agree

/-- A rendering that adds the same text to drafts that agree, and changes nothing else. -/
def Extends (l : Level) (f : Draft → Draft) : Prop :=
  ∀ d e, l.Agree d e → ∃ t, f d = d.write t ∧ f e = e.write t

namespace Extends

theorem write_of {t : Draft → Text} (ht : ∀ d e, l.Agree d e → t d = t e) :
    Extends l fun d => d.write (t d) :=
  fun d e h => ⟨t d, rfl, by rw [ht d e h]⟩

theorem write (t : Text) : Extends l (·.write t) := write_of fun _ _ _ => rfl

theorem id : Extends l fun d => d :=
  fun d e _ => ⟨[], d.write_nil.symm, e.write_nil.symm⟩

theorem comp {f g : Draft → Draft} (hf : Extends l f) (hg : Extends l g) :
    Extends l fun d => g (f d) := by
  intro d e h
  obtain ⟨t, hd, he⟩ := hf d e h
  obtain ⟨u, hd', he'⟩ := hg _ _ (h.write t)
  refine ⟨t ++ u, ?_, ?_⟩
  · show g (f d) = _
    rw [hd, hd', Draft.write_write]
  · show g (f e) = _
    rw [he, he', Draft.write_write]

/-- Text set aside is the same for drafts that agree, and nothing else is changed. -/
theorem capture_eq {f : Draft → Draft} (hf : Extends l f) {d e : Draft} (h : l.Agree d e) :
    ∃ t, d.capture f = (t, d) ∧ e.capture f = (t, e) := by
  obtain ⟨t, hd, he⟩ := hf _ _ (h.of_text [] [])
  refine ⟨t, ?_, ?_⟩
  · rw [Draft.capture, hd]
    rfl
  · rw [Draft.capture, he]
    rfl

theorem capture {f : Draft → Draft} {k : Text → Draft → Draft} (hf : Extends l f)
    (hk : ∀ t, Extends l (k t)) :
    Extends l fun d => k (d.capture f).1 (d.capture f).2 := by
  intro d e h
  obtain ⟨t, hd, he⟩ := hf.capture_eq h
  simp only [hd, he]
  exact hk t d e h

theorem ite {p : Draft → Bool} (hp : ∀ d e, l.Agree d e → p d = p e) {f g : Draft → Draft}
    (hf : Extends l f) (hg : Extends l g) :
    Extends l fun d => if p d then f d else g d := by
  intro d e h
  simp only [hp d e h]
  split
  · exact hf d e h
  · exact hg d e h

/-- Scopes entered for a while change nothing but what is written meanwhile. -/
theorem within {f : Draft → Draft} (hf : Extends .block f) (s : Scope) :
    Extends .block fun d => (f (d.enter s)).exit := by
  intro d e h
  obtain ⟨t, hd, he⟩ := hf _ _ (h.enter s)
  refine ⟨t, ?_, ?_⟩
  · show (f (d.enter s)).exit = _
    rw [hd]
    rfl
  · show (f (e.enter s)).exit = _
    rw [he]
    rfl

/-- Marks around what is written inside them. -/
theorem enclosed {f : Draft → Draft} (hf : Extends l f) (before after : Text) :
    Extends l fun d => (f (d.write before)).write after :=
  ((write before).comp hf).comp (write after)

end Extends

/-- A rendering that appends, and reads only what a draft still holds when it begins anew. -/
def Frames (l : Level) (f : Draft → Draft) : Prop := ∀ d, f d = d.write (f (l.reset d)).text

theorem Extends.frames {f : Draft → Draft} (hf : Extends l f) : Frames l f := by
  intro d
  obtain ⟨t, hd, hreset⟩ := hf d (l.reset d) (.self_reset l d)
  rw [hd, hreset, Draft.write_text, Level.reset_text, List.nil_append]

/-- Text set aside is what is written on a fresh draft, and nothing else is changed. -/
theorem Frames.capture_eq {f : Draft → Draft} (hf : Frames l f) (d : Draft) :
    d.capture f = ((f (l.reset d)).text, d) := by
  unfold Draft.capture
  rw [hf, l.reset_of_text]
  rfl

theorem referenceLabel_extends (kind : ReferenceKind) (label : Label) :
    Extends l (referenceLabel kind label) := by
  cases kind
  · exact .write _
  · exact .write _
  · exact .id

theorem link_extends (url text : Text) : Extends l (link url text) := .write _

theorem image_extends (r : Resource) (alt : Text) : Extends l (image r alt) := .write _

theorem imageReference_extends (kind : ReferenceKind) (label : Label) (alt : Text) :
    Extends l (imageReference kind label alt) := by
  intro d e h
  simp only [imageReference, h.definition?_eq]
  cases e.definition? label.identifier with
  | some r => exact image_extends r alt d e h
  | none => exact (Extends.write _).comp (referenceLabel_extends kind label) d e h

theorem emphasis_extends {cs : List Node} (hcs : Extends l (inlines cs))
    (hinner : ∀ ds, cs = [.strong ds] → Extends l (inlines ds)) :
    Extends l (inline (.emphasis cs)) := by
  intro d e h
  -- Strong text alone inside emphasis is written with marks of its own.
  by_cases hstrong : ∃ ds, cs = [.strong ds]
  · obtain ⟨ds, rfl⟩ := hstrong
    simp only [inline]
    exact (hinner ds rfl).enclosed _ _ d e h
  · have hother : ∀ ds, cs = [.strong ds] → False := fun ds he => hstrong ⟨ds, he⟩
    simp only [inline.eq_5 d cs hother, inline.eq_5 e cs hother]
    exact hcs.enclosed _ _ d e h

theorem linkReference_extends (kind : ReferenceKind) (label : Label) {cs : List Node}
    (hcs : Extends l (inlines cs)) : Extends l (inline (.linkReference kind label cs)) := by
  intro d e h
  simp only [inline, h.definition?_eq]
  cases e.definition? label.identifier with
  | some r => exact hcs.capture (k := link r.url) (link_extends r.url) d e h
  | none => exact (hcs.enclosed _ _).comp (referenceLabel_extends kind label) d e h

mutual

theorem inline_extends : (n : Node) → Extends l (inline n)
  | .text _ | .lineBreak | .inlineCode _ | .html _ => by
    intro d e h
    simp only [inline]
    exact Extends.write _ d e h
  | .emphasis cs => emphasis_extends (inlines_extends cs) fun ds _ => inlines_extends ds
  | .strong cs | .delete cs => by
    intro d e h
    simp only [inline]
    exact (inlines_extends cs).enclosed _ _ d e h
  | .link r cs => by
    intro d e h
    simp only [inline]
    exact (inlines_extends cs).capture (k := link r.url) (link_extends r.url) d e h
  | .image r alt => by
    intro d e h
    simp only [inline]
    exact image_extends r alt d e h
  | .linkReference kind label cs => linkReference_extends kind label (inlines_extends cs)
  | .imageReference kind label alt => by
    intro d e h
    simp only [inline]
    exact imageReference_extends kind label alt d e h
  | .root cs | .paragraph cs | .heading _ cs | .blockquote cs | .list _ _ _ cs | .listItem _ _ cs
  | .footnoteDefinition _ cs | .table _ cs | .tableRow cs | .tableCell cs | .flowElement cs
  | .textElement cs => by
    intro d e h
    simp only [inline]
    exact inlines_extends cs d e h
  | .thematicBreak | .code _ _ _ | .math _ _ | .definition _ _ | .yaml _ | .toml _ | .inlineMath _
  | .footnoteReference _ | .expression _ => by
    intro d e h
    simp only [inline]
    exact Extends.id d e h

theorem inlines_extends : (ns : List Node) → Extends l (inlines ns)
  | [] => by
    intro d e h
    simp only [inlines]
    exact Extends.id d e h
  | n :: ns => by
    intro d e h
    simp only [inlines]
    exact (inline_extends n).comp (inlines_extends ns) d e h

end

theorem inline_frames (n : Node) : Frames l (inline n) := (inline_extends n).frames

theorem inlines_frames (ns : List Node) : Frames l (inlines ns) := (inlines_extends ns).frames

/-- What inline nodes write in a document with these definitions. -/
def phraseText (defs : List (Text × Resource)) (ns : List Node) : Text :=
  (inlines ns ⟨[], [], false, defs⟩).text

theorem inlines_phraseText (ns : List Node) (d : Draft) :
    inlines ns d = d.write (phraseText d.definitions ns) :=
  inlines_frames (l := .inline) ns d

theorem itemText_extends (first : Bool) (ns : List Node) : Extends l (itemText first ns) := by
  induction ns generalizing first with
  | nil =>
    intro d e h
    simp only [itemText]
    exact Extends.id d e h
  | cons n ns ih =>
    intro d e h
    cases n with
    | paragraph cs =>
      simp only [itemText]
      have hgap : Extends l fun d => if first then d else d.write [' '] :=
        Extends.ite (p := fun _ => first) (fun _ _ _ => rfl) .id (.write _)
      exact (hgap.comp (inlines_extends cs)).comp (ih false) d e h
    | _ =>
      simp only [itemText]
      exact ih first d e h

/-- Cells are written aside, and a row of them leaves the draft alone. -/
theorem exists_cells_eq (align : List (Option Align)) (ns : List Node) {d e : Draft}
    (h : l.Agree d e) : ∃ row, cells align ns d = (row, d) ∧ cells align ns e = (row, e) := by
  induction ns generalizing align with
  | nil => exact ⟨[], rfl, rfl⟩
  | cons n ns ih =>
    cases n with
    | tableCell cs =>
      obtain ⟨t, hd, he⟩ := (inlines_extends cs).capture_eq h
      obtain ⟨row, hrowd, hrowe⟩ := ih align.tail
      simp only [cells, hd, he, hrowd, hrowe]
      exact ⟨_, rfl, rfl⟩
    | _ =>
      simp only [cells]
      exact ih align.tail

theorem cells_eq (align : List (Option Align)) (ns : List Node) (d : Draft) :
    cells align ns d = ((cells align ns d.fresh).1, d) := by
  obtain ⟨row, hd, hfresh⟩ := exists_cells_eq align ns (Level.Agree.self_reset .block d)
  rw [hd, show cells align ns d.fresh = _ from hfresh]

theorem rows_extends (align : List (Option Align)) (ns : List Node) :
    Extends l (rows align ns) := by
  induction ns with
  | nil =>
    intro d e h
    simp only [rows]
    exact Extends.id d e h
  | cons n ns ih =>
    intro d e h
    cases n with
    | tableRow cs =>
      obtain ⟨row, hd, he⟩ := exists_cells_eq align cs h
      simp only [rows, hd, he]
      exact (Extends.write _).comp ih d e h
    | _ =>
      simp only [rows]
      exact ih d e h

/-- A quoted block other than a paragraph is written aside, and its last line is ended anew. -/
theorem quoted_cons {n : Node} (hn : n.isParagraph = false) (ns : List Node) (d : Draft) :
    quoted (n :: ns) d =
      let r := (d.write ['>', ' ']).capture (block n)
      quoted ns (r.2.write (dropEndWhile (· == '\n') r.1 ++ ['\n'])) := by
  cases n with
  | paragraph cs => cases hn
  | _ => rfl

mutual

/-- Whatever a node is that is no root and has none in it, writing it changes the text alone. -/
theorem block_extends : (n : Node) → n.hasRoot = false → Extends .block (block n)
  | .root _, h => by
    cases h
  | .heading depth cs, _ => by
    intro d e h
    simp only [block]
    exact (inlines_extends cs).enclosed _ _ d e h
  | .paragraph cs, _ => by
    intro d e h
    simp only [block]
    exact Extends.ite (fun _ _ => Level.Agree.isTopLevel_eq) ((inlines_extends cs).comp (.write _))
      .id d e h
  | .code _ _ _, _ | .thematicBreak, _ | .html _, _ => by
    intro d e h
    simp only [block]
    exact Extends.write _ d e h
  | .list ordered _ _ cs, h => by
    intro d e hagree
    simp only [block]
    exact (blocks_extends cs h).within (.list ordered) d e hagree
  | .listItem checked _ cs, h => by
    have hmarker : Extends .block fun d =>
        d.write (List.replicate (d.listDepth - 1) '\t' ++ itemMarker checked d ++ [' ']) := by
      apply Extends.write_of
      intro d e h
      simp only [itemMarker, h.listDepth_eq, h.inOrderedList_eq]
    intro d e hagree
    simp only [block]
    exact ((hmarker.comp (itemText_extends true cs)).comp (.write _)).comp
      ((blocks_extends cs h).within _) d e hagree
  | .blockquote cs, h => by
    intro d e hagree
    simp only [block]
    exact (quoted_extends cs h).within .quote d e hagree
  | .table align cs, _ => by
    intro d e h
    simp only [block]
    exact (rows_extends align cs).enclosed _ _ d e h
  | .math _ _, _ | .definition _ _, _ | .footnoteDefinition _ _, _ | .tableRow _, _
  | .tableCell _, _ | .yaml _, _ | .toml _, _ | .flowElement _, _ | .text _, _ | .emphasis _, _
  | .strong _, _ | .delete _, _ | .inlineCode _, _ | .inlineMath _, _ | .lineBreak, _ | .link _ _, _
  | .image _ _, _ | .linkReference _ _ _, _ | .imageReference _ _ _, _ | .footnoteReference _, _
  | .textElement _, _ | .expression _, _ => by
    intro d e h
    simp only [block]
    exact Extends.id d e h

theorem blocks_extends : (ns : List Node) → Node.haveRoot ns = false → Extends .block (blocks ns)
  | [], _ => by
    intro d e h
    simp only [blocks]
    exact Extends.id d e h
  | n :: ns, h => by
    intro d e hagree
    obtain ⟨hn, hns⟩ := Bool.or_eq_false_iff.mp h
    simp only [blocks]
    exact (block_extends n hn).comp (blocks_extends ns hns) d e hagree

theorem quoted_extends : (ns : List Node) → Node.haveRoot ns = false → Extends .block (quoted ns)
  | [], _ => by
    intro d e h
    simp only [quoted]
    exact Extends.id d e h
  | n :: ns, h => by
    obtain ⟨hn, hns⟩ := Bool.or_eq_false_iff.mp h
    have haside := (Extends.write (l := .block) ['>', ' ']).comp ((block_extends n hn).capture
      (k := fun t d => d.write (dropEndWhile (· == '\n') t ++ ['\n'])) fun _ => .write _)
    have hrest := quoted_extends ns hns
    intro d e hagree
    cases hp : n.isParagraph
    · rw [quoted_cons hp, quoted_cons hp]
      exact haside.comp hrest d e hagree
    · obtain ⟨cs, rfl⟩ := Node.eq_of_isParagraph hp
      simp only [quoted]
      exact ((inlines_extends cs).enclosed ['>', ' '] ['\n']).comp hrest d e hagree

end

theorem block_frames (n : Node) (h : n.hasRoot = false) : Frames .block (block n) :=
  (block_extends n h).frames

/-- What a rendering adds is a function of any view of a draft that tells apart those that do not
agree. -/
theorem Extends.exists_written {f : Draft → Draft} (hf : Extends l f) {view : Draft → α}
    (hview : ∀ d e, view d = view e → l.Agree d e) :
    ∃ written : α → Text, ∀ d, f d = d.write (written (view d)) := by
  have hfactors : Function.FactorsThrough (fun d => (f (l.reset d)).text) view := by
    intro d e heq
    obtain ⟨t, hd, he⟩ := hf _ _ (hview d e heq).reset
    simp only [hd, he, Draft.write_text, Level.reset_text]
  refine ⟨Function.extend view (fun d => (f (l.reset d)).text) fun _ => [], fun d => ?_⟩
  rw [hfactors.extend_apply]
  exact hf.frames d

/-- Writing a node that is no root and has none in it adds text to a draft and changes nothing else,
whatever the draft holds. A block's text is told by the scopes and by what the labels stand for, an
inline node's by the labels alone. -/
theorem node_framed {n : Node} (h : n.hasRoot = false) :
    ∃ (asBlock : List Scope → (Text → Option Resource) → Text)
      (asInline : (Text → Option Resource) → Text),
      ∀ d : Draft,
        block n d = { d with text := d.text ++ asBlock d.scopes d.definition? } ∧
        inline n d = { d with text := d.text ++ asInline d.definition? } := by
  have hscopes : ∀ d e : Draft, (d.scopes, d.definition?) = (e.scopes, e.definition?) →
      Level.block.Agree d e := by
    intro d e heq
    obtain ⟨hscopes, hlabels⟩ := Prod.mk.inj heq
    exact ⟨hscopes, congrFun hlabels⟩
  have hlabels : ∀ d e : Draft, d.definition? = e.definition? → Level.inline.Agree d e :=
    fun d e heq => congrFun heq
  obtain ⟨asBlock, hblock⟩ := (block_extends n h).exists_written hscopes
  obtain ⟨asInline, hinline⟩ := (inline_extends n).exists_written hlabels
  exact ⟨fun scopes labels => asBlock (scopes, labels), asInline,
    fun d => ⟨hblock d, hinline d⟩⟩

/-- An item in a quote, in a draft without scopes that is in the middle of a line. -/
theorem node_framed_quote :
    let n : Node := .blockquote [.listItem none false
      [.paragraph [.linkReference .shortcut ⟨"G".toList, none⟩ [.text ['a']]]]]
    let d : Draft := ⟨['z'], [], true, [(['g'], ⟨['u'], none⟩)]⟩
    n.hasRoot = false ∧ (block n d).text = "z> * [[u | a]]\n".toList ∧
      ∃ (asBlock : List Scope → (Text → Option Resource) → Text)
        (asInline : (Text → Option Resource) → Text),
        ∀ d : Draft,
          block n d = { d with text := d.text ++ asBlock d.scopes d.definition? } ∧
          inline n d = { d with text := d.text ++ asInline d.definition? } :=
  ⟨rfl, by decide +kernel, node_framed rfl⟩

/-- Defining labels leaves all but the definitions alone. -/
theorem define_eq (ds : List (Label × Resource)) (d : Draft) :
    define ds d = { d with definitions := (define ds d).definitions } := by
  induction ds generalizing d with
  | nil => rfl
  | cons p ds ih =>
    have hone : ∀ defs, { d.define p.1.identifier p.2 with definitions := defs } =
        { d with definitions := defs } := by
      intro defs
      unfold Draft.define
      split
      · rfl
      · rfl
    exact (ih (d.define p.1.identifier p.2)).trans (hone _)

/-- What a tree that is no root is written on: nothing yet, but the definitions of the tree. -/
def draftOf (tree : Node) : Draft :=
  ⟨[], [.root], true, (define tree.definitions .empty).definitions⟩

theorem document_text {tree : Node} (h : isRoot tree = false) :
    (document tree).text = (block tree (draftOf tree)).text := by
  have hstart : (define tree.definitions .empty).startBlock = draftOf tree := by
    rw [define_eq]
    rfl
  show (block tree (if isRoot tree then _ else _)).text = _
  rw [h, if_neg Bool.false_ne_true, hstart]

end Import
end MarkupBridge
