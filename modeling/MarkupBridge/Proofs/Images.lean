import MarkupBridge.Proofs.RoundTrip
import MarkupBridge.Proofs.Tables

namespace MarkupBridge

namespace Wiki
open Text

namespace Opening

/-- What the lines of blocks begin with, tables and images apart. -/
def fronts : Text := ['\x60', '=', '<', '-', '\t', '*', '>']

/-- A line without any of these before it opens a table, an image block or none. -/
theorem read?_eq {line : Text} {c : Char} (hline : line.head? = some c) (hc : c ∉ fronts) :
    read? line = ((table? line).map .table).or
      ((image? line).map fun (layout, inside) => .image layout inside) := by
  obtain ⟨t, rfl⟩ := List.head?_eq_some_iff.mp hline
  have hne : ∀ d ∈ fronts, c ≠ d := by
    rintro d hd rfl
    exact hc hd
  have hfence : isFence (c :: t) = false := by
    simp [isFence, startsWith, after?, Ne.symm (hne '\x60' (by decide))]
  have hrocket : isRocket (c :: t) = false := by
    simp [isRocket, startsWith, after?, Ne.symm (hne '=' (by decide))]
  have hembed : after? ['<', '='] (c :: t) = none := if_neg (Ne.symm (hne '<' (by decide)))
  have hheading : heading? (c :: t) = none := by
    simp [heading?, hne '=' (by decide)]
  have hentry : Entry.read? (c :: t) = none := by
    cases he : Entry.read? (c :: t) with
    | none => rfl
    | some e =>
      obtain ⟨d, u, heq, hd⟩ := Entry.exists_cons_of_read? he
      obtain rfl : c = d := (List.cons.inj heq).1
      rcases hd with rfl | rfl
      · exact absurd rfl (hne '\t' (by decide))
      · exact absurd rfl (hne '*' (by decide))
  have hquote : isQuote (c :: t) = false := by
    simp [isQuote, startsWith, after?, Ne.symm (hne '>' (by decide))]
  unfold read?
  simp only [hfence, hrocket, hembed, hheading, isRule_eq_false (hne '-' (by decide)), hentry,
    hquote, Bool.false_eq_true, if_false]
  cases table? (c :: t) <;> rfl

/-- Without an open brace at its end it opens no table. -/
theorem read?_eq_image? {c : Char} {t : Text} (hc : c ∉ fronts)
    (hlast : (trim (c :: t)).getLast? ≠ some '\x7b') :
    read? (c :: t) = (image? (c :: t)).map fun (layout, inside) => .image layout inside := by
  have htable : table? (c :: t) = none := by
    cases ht : table? (c :: t) with
    | none => rfl
    | some caption => exact absurd (getLast?_of_table? ht) hlast
  rw [read?_eq rfl hc, htable]
  rfl

end Opening

/-- A text without braces and line feeds. -/
def Unbraced (t : Text) : Prop := '\n' ∉ t ∧ '\x7b' ∉ t ∧ '\x7d' ∉ t

instance : DecidablePred Unbraced := fun _ => inferInstanceAs (Decidable (_ ∧ _))

theorem Unbraced.append {t u : Text} (ht : Unbraced t) (hu : Unbraced u) : Unbraced (t ++ u) := by
  obtain ⟨hbreak, hopen, hclose⟩ := ht
  exact ⟨by simp [hbreak, hu.1], by simp [hopen, hu.2.1], by simp [hclose, hu.2.2]⟩

namespace Gallery

/-- A size as it is written: a width, or a width and a height around an asterisk. -/
inductive IsSize : Text → Text → Option Text → Prop
  | width {w : Text} (h : isDimension w = true) : IsSize w w none
  | both {a b : Text} (ha : isDimension (trim a) = true) (hb : isDimension (trim b) = true) :
    IsSize (a ++ '*' :: b) (trim a) (some (trim b))

theorem not_mem_of_isDimension {t : Text} (h : isDimension t = true) : '*' ∉ t := by
  intro hm
  have hall := List.all_eq_true.mp (Bool.and_eq_true_iff.mp h).2 '*' hm
  cases hall

theorem dimensions?_eq_some_iff {t w : Text} {h : Option Text} :
    dimensions? t = some (w, h) ↔ IsSize t w h := by
  constructor
  · intro heq
    unfold dimensions? at heq
    split at heq
    · next a b hcut =>
      split at heq
      · next hdim =>
        obtain ⟨ha, hb⟩ := Bool.and_eq_true_iff.mp hdim
        cases heq
        rw [eq_of_cutChar? hcut]
        exact .both ha hb
      · cases heq
    · split at heq
      · next hdim =>
        cases heq
        exact .width hdim
      · cases heq
  · intro hs
    cases hs with
    | width hw =>
      rw [dimensions?, cutChar?_of_not_mem (not_mem_of_isDimension hw)]
      exact if_pos hw
    | @both a b ha hb =>
      have hstar : '*' ∉ a := fun hm => not_mem_of_isDimension ha (mem_trim (by decide) hm)
      rw [dimensions?, cutChar?_append hstar]
      exact if_pos (Bool.and_eq_true_iff.mpr ⟨ha, hb⟩)

theorem isSome_dimensions? (t : Text) :
    (dimensions? t).isSome = true ↔ ∃ w h, IsSize t w h := by
  constructor
  · intro hsome
    obtain ⟨⟨w, h⟩, heq⟩ := Option.isSome_iff_exists.mp hsome
    exact ⟨w, h, dimensions?_eq_some_iff.mp heq⟩
  · rintro ⟨w, h, hsize⟩
    rw [dimensions?_eq_some_iff.mpr hsize]
    rfl

instance (t : Text) : Decidable (∃ w h, IsSize t w h) :=
  decidable_of_iff _ (isSome_dimensions? t)

/-- A text that can be an image's target. -/
def IsTarget (t : Text) : Prop := t ≠ [] ∧ trim t = t ∧ '|' ∉ t ∧ Unbraced t

instance : DecidablePred IsTarget := fun _ => inferInstanceAs (Decidable (_ ∧ _))

/-- A text that can stand after the bar. -/
def IsDescription (t : Text) : Prop := trim t = t ∧ Unbraced t

instance : DecidablePred IsDescription := fun _ => inferInstanceAs (Decidable (_ ∧ _))

/-- What an image's target is followed by. -/
def barred (t : Text) : Text := if t.isEmpty then [] else " | ".toList ++ t

/-- The body of an image block with one image. -/
def body (target t : Text) : Text := ' ' :: (target ++ barred t) ++ [' ']

/-- The image of a target with a size or a description after the bar. -/
def entry (target t : Text) : ImageEntry Text :=
  match dimensions? t with
  | some (w, h) => ⟨target, some w, h, []⟩
  | none => ⟨target, none, none, t⟩

theorem unbraced_body {target t : Text} (htarget : Unbraced target) (ht : Unbraced t) :
    Unbraced (body target t) := by
  have hblank : Unbraced [' '] := by decide
  have hbarred : Unbraced (barred t) := by
    unfold barred
    split
    · decide
    · exact Unbraced.append (by decide) ht
  exact (hblank.append (htarget.append hbarred)).append hblank

/-- A body on one line has one image, and no other description than what stands after the bar. -/
theorem drafts_of_unbraced {t : Text} (h : Unbraced t) : drafts t = (⟨t, none⟩, []) := by
  induction t with
  | nil => rw [drafts]
  | cons c t ih =>
    obtain ⟨hbreak, hopen, hclose⟩ := h
    have ih := ih ⟨List.not_mem_of_not_mem_cons hbreak, List.not_mem_of_not_mem_cons hopen,
      List.not_mem_of_not_mem_cons hclose⟩
    rw [drafts, if_neg (Ne.symm (List.ne_of_not_mem_cons hbreak)),
      if_neg (Ne.symm (List.ne_of_not_mem_cons hopen)), ih]

theorem trim_padded (t : Text) : trim (' ' :: t ++ [' ']) = trim t := by
  rw [trim_concat (by decide), trim_cons (by decide)]

theorem image?_unbarred {head : Text} (hbar : '|' ∉ head) (hne : (trim head).isEmpty = false) :
    Draft.image? ⟨head, none⟩ = some (entry (trim head) []) := by
  simp only [Draft.image?, cutChar?_of_not_mem hbar, Option.map_none, Option.getD_none, hne,
    Bool.false_eq_true, if_false]
  rfl

/-- What stands after the first bar is a size or a description. -/
theorem image?_barred {front : Text} (hbar : '|' ∉ front) (hne : (trim front).isEmpty = false)
    (t : Text) : Draft.image? ⟨front ++ '|' :: t, none⟩ = some (entry (trim front) (trim t)) := by
  simp only [Draft.image?, cutChar?_append hbar, Option.map_some, Option.getD_some, hne,
    Bool.false_eq_true, if_false, entry]
  cases dimensions? (trim t) with
  | none => simp only [Option.getD_none, trim_trim]
  | some size => rfl

theorem read_body {target t : Text} (htarget : IsTarget target) (ht : IsDescription t) :
    read (body target t) = [entry target t] := by
  obtain ⟨hne, htrim, hbar, hunbraced⟩ := htarget
  have hfront : '|' ∉ ' ' :: target ++ [' '] := by simp [hbar]
  have hempty : (trim (' ' :: target ++ [' '])).isEmpty = false := by
    rw [trim_padded, htrim]
    simpa using hne
  -- An empty description is written without a bar.
  have himage : Draft.image? ⟨body target t, none⟩ = some (entry target t) := by
    cases t with
    | nil =>
      have hbody : body target [] = ' ' :: target ++ [' '] := by simp [body, barred]
      rw [hbody, image?_unbarred hfront hempty, trim_padded, htrim]
    | cons c t =>
      have hbody : body target (c :: t) =
          (' ' :: target ++ [' ']) ++ '|' :: (' ' :: (c :: t) ++ [' ']) := by
        simp [body, barred]
      rw [hbody, image?_barred hfront hempty, trim_padded, trim_padded, htrim, ht.1]
  rw [read, drafts_of_unbraced (unbraced_body hunbraced ht.2)]
  simp only [List.filterMap_cons, himage, List.filterMap_nil]

end Gallery

theorem Chunk.toBlock_of_isSize {target t w : Text} {h : Option Text} (hsize : Gallery.IsSize t w h)
    (layout : Option Text) : (Chunk.image layout [Gallery.entry target t]).toBlock =
      .image layout [⟨target, some w, h, []⟩] := by
  rw [Gallery.entry, Gallery.dimensions?_eq_some_iff.mpr hsize]
  show Block.image layout [⟨target, some w, h, Block.ofText []⟩] = _
  rw [Block.ofText_nil]

theorem Chunk.toBlock_of_not_isSize {target t : Text} (hsize : ¬ ∃ w h, Gallery.IsSize t w h)
    (layout : Option Text) : (Chunk.image layout [Gallery.entry target t]).toBlock =
      .image layout [⟨target, none, none, Block.ofText t⟩] := by
  rw [← Gallery.isSome_dimensions?, Option.not_isSome_iff_eq_none] at hsize
  rw [Gallery.entry, hsize]
  rfl

/-- A body on the line of its opening brace is taken up to the brace that closes it. What comes
after that brace on the line is no part of any block. -/
theorem Chunk.read_image {line body after : Text} {layout : Option Text}
    (hline : Opening.read? line = some (.image layout (body ++ '\x7d' :: after)))
    (hbody : Unbraced body) (rest : List Text) :
    read line rest = (.image layout (Gallery.read body), rest) := by
  obtain ⟨hbreak, hopen, hclose⟩ := hbody
  obtain ⟨more, hmore⟩ : ∃ more, joinLines ((body ++ '\x7d' :: after) :: rest) =
      body ++ '\x7d' :: more := by
    cases rest with
    | nil => exact ⟨after, rfl⟩
    | cons l rest =>
      refine ⟨after ++ '\n' :: joinLines (l :: rest), ?_⟩
      show (body ++ '\x7d' :: after) ++ '\n' :: joinLines (l :: rest) = _
      rw [List.append_assoc, List.cons_append]
  have htaken : bracedBody (body ++ '\x7d' :: after) rest = (body, rest) := by
    rw [bracedBody, hmore, (Matched.of_not_mem hopen hclose).inBraces_closed,
      List.count_eq_zero.mpr hbreak]
    rfl
  simp only [read, hline, htaken]

end Wiki

namespace Import
open Text Markdown Wiki

/-- What describes an image: its title, or the text that stands for it where it has none. -/
def described (r : Resource) (alt : Text) : Text := (r.title.bind nonempty?).getD alt

theorem image_eq (r : Resource) (alt : Text) (d : Draft) :
    image r alt d = d.write ("img \x7b".toList ++ Gallery.body r.url (described r alt)
      ++ ['\x7d']) := by
  have hbarred : ((r.title.bind nonempty?).or (nonempty? alt)).elim [] (" | ".toList ++ ·) =
      Gallery.barred (described r alt) := by
    unfold described Gallery.barred
    cases ht : r.title.bind nonempty? with
    | none => cases alt <;> rfl
    | some t =>
      obtain ⟨u, -, hu⟩ := Option.bind_eq_some_iff.mp ht
      unfold nonempty? at hu
      split at hu
      · cases hu
      · next hempty =>
        cases hu
        simp [hempty]
  unfold image
  rw [hbarred]
  simp [Gallery.body]

theorem paragraph_text {cs : List Node} (h : Node.definitionsAll cs = []) :
    (document (.paragraph cs)).text = inlineText cs ++ ['\n'] := by
  have hd : (draftOf (.paragraph cs)).definitions = [] := by
    rw [draftOf, Node.definitions, h]
    rfl
  have htop : (draftOf (.paragraph cs)).isTopLevel = true := rfl
  rw [document_text rfl, block, if_pos htop, inlines_eq hd]
  rfl

theorem isDescription_described {r : Resource} {alt : Text}
    (htitle : ∀ t ∈ r.title, Gallery.IsDescription t) (halt : Gallery.IsDescription alt) :
    Gallery.IsDescription (described r alt) := by
  unfold described
  cases ht : r.title.bind nonempty? with
  | none => exact halt
  | some t =>
    obtain ⟨u, hu, hnonempty⟩ := Option.bind_eq_some_iff.mp ht
    unfold nonempty? at hnonempty
    split at hnonempty
    · cases hnonempty
    · cases hnonempty
      exact htitle t hu

theorem inlineText_image (r : Resource) (alt : Text) : inlineText [.image r alt] =
    "img \x7b".toList ++ Gallery.body r.url (described r alt) ++ ['\x7d'] := by
  rw [inlineText, inlines, inline, image_eq]
  rfl

theorem ofText_image_entry {r : Resource} {alt : Text} (hurl : Gallery.IsTarget r.url)
    (hdescribed : Gallery.IsDescription (described r alt)) :
    Wiki.Block.ofText (document (.paragraph [.image r alt])).text =
      [Chunk.toBlock (.image none [Gallery.entry r.url (described r alt)])] := by
  have hbody := Gallery.unbraced_body hurl.2.2.2 hdescribed.2
  have hline : IsLine (inlineText [.image r alt]) := by
    rw [inlineText_image]
    refine ⟨?_, ?_⟩
    · simp [hbody.1]
    · rw [getLast?_append_of_ne_nil _ (List.cons_ne_nil _ _)]
      decide
  have hopening : Opening.read? (inlineText [.image r alt]) =
      some (.image none (Gallery.body r.url (described r alt) ++ ['\x7d'])) := by
    have hlast := getLast?_trim_append_ne (c := '\x7b') (v := ['\x7d'])
      ("img \x7b".toList ++ Gallery.body r.url (described r alt)) (by decide) (by decide)
    rw [inlineText_image]
    exact Opening.read?_eq_image? (c := 'i') (by decide) hlast
  have hread := Chunk.read_image hopening hbody []
  rw [Gallery.read_body hurl hdescribed] at hread
  rw [paragraph_text rfl]
  refine Chunk.ofText_line hline (isBlankLine_of_mem (c := 'i') ?_ (by decide)) hread
  rw [inlineText_image]
  exact List.mem_cons_self

/-- An image alone in its paragraph is read back as a block of one image with its target. What
describes it is its description, unless that has the form of a size: then it is the size. -/
theorem ofText_image {r : Resource} {alt : Text} (hurl : Gallery.IsTarget r.url)
    (htitle : ∀ t ∈ r.title, Gallery.IsDescription t) (halt : Gallery.IsDescription alt) :
    ((¬ ∃ w h, Gallery.IsSize (described r alt) w h) →
        Wiki.Block.ofText (document (.paragraph [.image r alt])).text =
          [.image none [⟨r.url, none, none, Wiki.Block.ofText (described r alt)⟩]]) ∧
      ∀ w h, Gallery.IsSize (described r alt) w h →
        Wiki.Block.ofText (document (.paragraph [.image r alt])).text =
          [.image none [⟨r.url, some w, h, []⟩]] := by
  have hread := ofText_image_entry hurl (isDescription_described htitle halt)
  constructor
  · intro hsize
    rw [hread, Chunk.toBlock_of_not_isSize hsize]
  · intro w h hsize
    rw [hread, Chunk.toBlock_of_isSize hsize]

/-- A title with a bar and an asterisk in it, and an alternative text that would be a size. -/
theorem ofText_image_title :
    Gallery.IsTarget "a.png".toList ∧
      (∀ t ∈ some "3 * x | y".toList, Gallery.IsDescription t) ∧
      Gallery.IsDescription "100".toList ∧
      (¬ ∃ w h, Gallery.IsSize "3 * x | y".toList w h) ∧
      Gallery.IsSize "100% * 4em".toList "100%".toList (some "4em".toList) ∧
      Wiki.Block.ofText (document (.paragraph
          [.image ⟨"a.png".toList, some "3 * x | y".toList⟩ "100".toList])).text =
        [.image none [⟨"a.png".toList, none, none, Wiki.Block.ofText "3 * x | y".toList⟩]] ∧
      Wiki.Block.ofText (document (.paragraph
          [.image ⟨"a.png".toList, none⟩ "100% * 4em".toList])).text =
        [.image none [⟨"a.png".toList, some "100%".toList, some "4em".toList, []⟩]] := by
  have hurl : Gallery.IsTarget "a.png".toList := by decide
  have htitle : ∀ t ∈ some "3 * x | y".toList, Gallery.IsDescription t := by decide
  have halt : Gallery.IsDescription "100".toList := by decide
  have hfree : ¬ ∃ w h, Gallery.IsSize "3 * x | y".toList w h := by decide
  have hsize : Gallery.IsSize "100% * 4em".toList "100%".toList (some "4em".toList) :=
    Gallery.dimensions?_eq_some_iff.mp (by decide)
  refine ⟨hurl, htitle, halt, hfree, hsize, ?_, ?_⟩
  · exact (ofText_image (r := ⟨_, _⟩) hurl htitle halt).1 hfree
  · exact (ofText_image (r := ⟨_, none⟩) hurl (by simp) (by decide)).2 _ _ hsize

/-- An alternative text of a number is lost: it is read as the width. -/
theorem ofText_image_number :
    Wiki.Block.ofText (document (.paragraph [.image ⟨"a.png".toList, none⟩ "100".toList])).text =
        [.image none [⟨"a.png".toList, some "100".toList, none, []⟩]] ∧
      ¬ ∀ (r : Resource) (alt : Text), Gallery.IsTarget r.url →
        (∀ t ∈ r.title, Gallery.IsDescription t) → Gallery.IsDescription alt →
          Wiki.Block.ofText (document (.paragraph [.image r alt])).text =
            [.image none [⟨r.url, none, none, Wiki.Block.ofText (described r alt)⟩]] := by
  have hread : Wiki.Block.ofText (document (.paragraph
      [.image ⟨"a.png".toList, none⟩ "100".toList])).text =
        [.image none [⟨"a.png".toList, some "100".toList, none, []⟩]] := by
    have hsize : Gallery.IsSize "100".toList "100".toList none := .width (by decide)
    rw [ofText_image_entry (by decide) (by decide)]
    exact congrArg (fun b => [b]) (Chunk.toBlock_of_isSize hsize none)
  apply And.intro hread
  intro h
  have hone := h ⟨"a.png".toList, none⟩ "100".toList (by decide) (by simp) (by decide)
  rw [hread] at hone
  cases hone

end Import

end MarkupBridge
