import MarkupBridge.Proofs.Fallbacks
import MarkupBridge.Proofs.Isolation
import MarkupBridge.Proofs.Lines

namespace MarkupBridge

namespace Text

/-- The text that an escaped text stands for. -/
def unescape : Text → Text
  | '&' :: 'a' :: 'm' :: 'p' :: ';' :: t => '&' :: unescape t
  | '&' :: 'l' :: 't' :: ';' :: t => '<' :: unescape t
  | '&' :: 'g' :: 't' :: ';' :: t => '>' :: unescape t
  | '&' :: 'q' :: 'u' :: 'o' :: 't' :: ';' :: t => '"' :: unescape t
  | c :: t => c :: unescape t
  | [] => []

theorem unescape_cons {c : Char} (hc : c ≠ '&') (t : Text) :
    unescape (c :: t) = c :: unescape t := by
  conv => lhs; unfold unescape
  split
  all_goals simp_all

theorem unescape_htmlChar (c : Char) (t : Text) : unescape (htmlChar c ++ t) = c :: unescape t := by
  unfold htmlChar
  split
  · next hc => rw [hc]; rfl
  · next hc =>
    split
    · next hc => rw [hc]; rfl
    · split
      · next hc => rw [hc]; rfl
      · exact unescape_cons hc t

theorem unescape_attributeChar (c : Char) (t : Text) :
    unescape (attributeChar c ++ t) = c :: unescape t := by
  unfold attributeChar
  split
  · next hc => rw [hc]; rfl
  · exact unescape_htmlChar c t

/-- What is escaped character by character is unescaped likewise. -/
theorem unescape_flatMap {f : Char → Text} (h : ∀ c t, unescape (f c ++ t) = c :: unescape t)
    (t : Text) : unescape (t.flatMap f) = t := by
  induction t with
  | nil => rfl
  | cons c t ih => rw [List.flatMap_cons, h, ih]

theorem unescape_escapeHtml (t : Text) : unescape (escapeHtml t) = t :=
  unescape_flatMap unescape_htmlChar t

theorem unescape_escapeAttribute (t : Text) : unescape (escapeAttribute t) = t :=
  unescape_flatMap unescape_attributeChar t

end Text

namespace Html
open Text Export
open Markdown.Tag (assignment assignments)

/-- The value of an attribute at the front of a text, and what follows its quote. -/
def attribute? (name t : Text) : Option (Text × Text) :=
  ((after? (' ' :: name ++ ['=', '"']) t).bind (cutChar? '"')).map fun (value, rest) =>
    (unescape value, rest)

def optional (name t : Text) : Option Text × Text :=
  match attribute? name t with
  | some (value, rest) => (some value, rest)
  | none => (none, t)

theorem attribute?_assignment (name value rest : Text) :
    attribute? name (assignment name (escapeAttribute value) ++ rest) = some (value, rest) := by
  have htext : assignment name (escapeAttribute value) ++ rest =
      (' ' :: name ++ ['=', '"']) ++ (escapeAttribute value ++ '"' :: rest) := by
    simp [assignment]
  rw [attribute?, htext, after?_eq_some_iff.mpr rfl, Option.bind_some,
    cutChar?_append (not_mem_escapeAttribute value).1]
  simp [unescape_escapeAttribute]

theorem optional_assignments {name : Text} (value : Option Text) {rest : Text}
    (h : attribute? name rest = none) :
    optional name (assignments (optionalAttribute name value) ++ rest) = (value, rest) := by
  cases value with
  | none =>
    show optional name rest = _
    rw [optional, h]
  | some v =>
    have htext : assignments (optionalAttribute name (some v)) =
        assignment name (escapeAttribute v) := List.append_nil _
    rw [htext, optional, attribute?_assignment]

/-- An attribute is passed over where none stands, or one whose name begins in another way. -/
theorem attribute?_eq_none {c d : Char} (h : c ≠ d) (name other : Text) (value : Option Text)
    {rest : Text} (hrest : attribute? (c :: name) rest = none) :
    attribute? (c :: name) (assignments (optionalAttribute (d :: other) value) ++ rest) = none := by
  cases value with
  | none => exact hrest
  | some v =>
    have hafter : after? (' ' :: c :: name ++ ['=', '"'])
        (assignments (optionalAttribute (d :: other) (some v)) ++ rest) = none := if_neg h
    rw [attribute?, hafter]
    rfl

/-- All that is read one after another at the front of a text, and what is left. -/
def many (read? : Text → Option (α × Text)) (t : Text) : List α × Text :=
  match read? t with
  | none => ([], t)
  | some (a, rest) =>
    if rest.length < t.length then
      let (as, rest) := many read? rest
      (a :: as, rest)
    else ([], t)
termination_by t.length

/-- All that stands between the first tag of a text and the last one. -/
def between? (start stop : Text) (read? : Text → Option (α × Text)) (t : Text) : Option (List α) :=
  (after? start t).bind fun t =>
    let (as, rest) := many read? t
    if rest = stop then some as else none

/-- How a fragment is written and read. What follows it does not matter. -/
structure Reads (written : α → Text) (read? : Text → Option (α × Text)) : Prop where
  ne_nil : ∀ a, written a ≠ []
  append : ∀ a rest, read? (written a ++ rest) = some (a, rest)

namespace Reads

variable {written : α → Text} {read? : Text → Option (α × Text)}

theorem many (h : Reads written read?) (as : List α) {rest : Text}
    (hrest : read? rest = none) : Html.many read? (as.flatMap written ++ rest) = (as, rest) := by
  induction as with
  | nil =>
    rw [List.flatMap_nil, List.nil_append, Html.many, hrest]
  | cons a as ih =>
    have hlength : (as.flatMap written ++ rest).length <
        (written a ++ (as.flatMap written ++ rest)).length := by
      have hpos := List.length_pos_iff.mpr (h.ne_nil a)
      simp only [List.length_append]
      omega
    rw [List.flatMap_cons, List.append_assoc, Html.many, h.append]
    dsimp only
    rw [if_pos hlength, ih]

theorem between (h : Reads written read?) {stop : Text} (hstop : read? stop = none)
    (start : Text) (as : List α) :
    between? start stop read? (start ++ as.flatMap written ++ stop) = some as := by
  rw [between?, List.append_assoc, after?_eq_some_iff.mpr rfl, Option.bind_some, h.many as hstop]
  exact if_pos rfl

end Reads

/-- The data of a picture in a gallery. -/
structure Picture where
  source : Text
  width : Option Text
  height : Option Text
  alt : Option Text
deriving DecidableEq, Repr

def Picture.written (p : Picture) : Text :=
  "<img".toList ++ assignments (pictureAttributes p.source p.width p.height p.alt) ++ ">\n".toList

def Picture.read? (t : Text) : Option (Picture × Text) := do
  let t ← after? "<img".toList t
  let (source, t) ← attribute? "src".toList t
  let (width, t) := optional "width".toList t
  let (height, t) := optional "height".toList t
  let (alt, t) := optional "alt".toList t
  let t ← after? ">\n".toList t
  return (⟨source, width, height, alt⟩, t)

/-- The data of a link in a launchpad. -/
structure Anchor where
  href : Text
  text : Text
deriving DecidableEq, Repr

def Anchor.written (a : Anchor) : Text :=
  "<a".toList ++ assignments [("href".toList, escapeAttribute a.href)] ++ ['>'] ++ escapeHtml a.text
    ++ "</a><br>\n".toList

def Anchor.read? (t : Text) : Option (Anchor × Text) := do
  let t ← after? "<a".toList t
  let (href, t) ← attribute? "href".toList t
  let t ← after? ['>'] t
  let (text, t) ← cut? "</a><br>\n".toList t
  return (⟨href, unescape text⟩, t)

def gallery? : Text → Option (List Picture) :=
  between? "<div class=\"img-gallery\">\n".toList "</div>\n".toList Picture.read?

def launchpad? : Text → Option (List Anchor) :=
  between? "<div class=\"launchpad\">\n".toList "</div>\n".toList Anchor.read?

theorem Picture.reads : Reads written read? where
  ne_nil _ := List.cons_ne_nil _ _
  append p rest := by
    obtain ⟨source, width, height, alt⟩ := p
    let tail : Text := ">\n".toList ++ rest
    have htext : written ⟨source, width, height, alt⟩ ++ rest =
        "<img".toList ++ (assignment "src".toList (escapeAttribute source)
          ++ (assignments (optionalAttribute "width".toList width)
            ++ (assignments (optionalAttribute "height".toList height)
              ++ (assignments (optionalAttribute "alt".toList alt) ++ tail)))) := by
      simp [written, pictureAttributes, assignments, tail]
    have hend : ∀ name, attribute? name tail = none := fun _ => rfl
    have hheight : attribute? "height".toList
        (assignments (optionalAttribute "alt".toList alt) ++ tail) = none :=
      attribute?_eq_none (by decide) _ _ alt (hend _)
    have hwidth : attribute? "width".toList
        (assignments (optionalAttribute "height".toList height)
          ++ (assignments (optionalAttribute "alt".toList alt) ++ tail)) = none :=
      attribute?_eq_none (by decide) _ _ height (attribute?_eq_none (by decide) _ _ alt (hend _))
    rw [htext, read?, after?_eq_some_iff.mpr rfl]
    simp only [Option.bind_eq_bind, Option.bind_some, attribute?_assignment,
      optional_assignments width hwidth, optional_assignments height hheight,
      optional_assignments alt (hend _)]
    rfl

theorem Anchor.reads : Reads written read? where
  ne_nil _ := List.cons_ne_nil _ _
  append a rest := by
    obtain ⟨href, text⟩ := a
    have htext : written ⟨href, text⟩ ++ rest =
        "<a".toList ++ (assignment "href".toList (escapeAttribute href)
          ++ (['>'] ++ (escapeHtml text ++ "</a><br>\n".toList ++ rest))) := by
      simp [written, assignments]
    have hcut : cut? "</a><br>\n".toList (escapeHtml text ++ "</a><br>\n".toList ++ rest) =
        some (escapeHtml text, rest) := cut?_append (not_mem_escapeHtml text) rest
    rw [htext, read?, after?_eq_some_iff.mpr rfl]
    simp only [Option.bind_eq_bind, Option.bind_some, attribute?_assignment]
    rw [after?_eq_some_iff.mpr rfl, Option.bind_some, hcut, Option.bind_some, unescape_escapeHtml]
    rfl

end Html

namespace Export
open Text Wiki Html
open Markdown.Tag (assignment assignments)

/-- The picture of an entry, with the trimmed rendering of its description unless that is empty. -/
def picture (s : Setting) (e : ImageEntry (List Block)) : Picture :=
  ⟨s.resolver.imageSource e.target, e.width, e.height,
    nonempty? (trim (blocks s 0 e.description .empty).text)⟩

def anchor (s : Setting) (r : Rocket) : Anchor :=
  ⟨(s.resolver.resolve r.link.address).href, r.link.display⟩

theorem images_text (s : Setting) (es : List (ImageEntry (List Block))) (d : Draft) :
    (images s es d).text = d.text ++ (es.map (picture s)).flatMap Picture.written := by
  induction es generalizing d with
  | nil => simp [images]
  | cons e es ih =>
    obtain ⟨target, width, height, description⟩ := e
    simp only [images]
    rw [ih]
    simp [picture, Picture.written, pictureAttributes, assignments,
      Appends.capture_eq (blocks_appends s 0 description)]

theorem gallery_text (s : Setting) (layout : Option Text) {es : List (ImageEntry (List Block))}
    (h : es.length ≠ 1) : (document s [.image layout es]).text =
      "<div class=\"img-gallery\">\n".toList ++ (es.map (picture s)).flatMap Picture.written
        ++ "</div>\n".toList := by
  have hblock : block s 0 (.image layout es) .empty = (images s es
      (Draft.empty.write "<div class=\"img-gallery\">\n".toList)).write "</div>\n".toList := by
    match es with
    | [] => rw [block]; exact fun e he => absurd he (by simp)
    | [_] => exact absurd rfl h
    | _ :: _ :: _ => rw [block]; exact fun e he => absurd he (by simp)
  rw [document_singleton, hblock]
  show (images s es _).text ++ _ = _
  rw [images_text]
  rfl

theorem launchpad_text (s : Setting) (rockets : List Rocket) :
    (document s [.launchpad rockets]).text = "<div class=\"launchpad\">\n".toList
      ++ ((rockets.filter (!·.empty)).map (anchor s)).flatMap Anchor.written
      ++ "</div>\n".toList := by
  have hfold : ∀ (rs : List Rocket) (d : Draft),
      (rs.foldl (fun d r => rocket s r d) d).text =
        d.text ++ (rs.map (anchor s)).flatMap Anchor.written := by
    intro rs
    induction rs with
    | nil => simp
    | cons r rs ih =>
      intro d
      rw [List.foldl_cons, ih]
      simp [rocket, anchor, Anchor.written, Draft.writeHtml, Draft.writeAttribute, assignments,
        assignment]
  rw [document_singleton, block, launchpad]
  show (List.foldl (fun d r => rocket s r d) _ _).text ++ _ = _
  rw [hfold]
  rfl

theorem gallery?_document (s : Setting) (layout : Option Text) {es : List (ImageEntry (List Block))}
    (h : es.length ≠ 1) :
    gallery? (document s [.image layout es]).text = some (es.map (picture s)) := by
  rw [gallery_text s layout h]
  exact Picture.reads.between rfl _ _

theorem launchpad?_document (s : Setting) (rockets : List Rocket) :
    launchpad? (document s [.launchpad rockets]).text =
      some ((rockets.filter (!·.empty)).map (anchor s)) := by
  rw [launchpad_text]
  exact Anchor.reads.between rfl _ _

/-- Whatever the strings in them are, galleries and launchpads are read back from their Markdown
alone, so two of them with different data are never written alike. -/
theorem fallbacks_recovered :
    (∀ (s : Setting) (layout : Option Text) (es : List (ImageEntry (List Block))), es.length ≠ 1 →
        gallery? (document s [.image layout es]).text = some (es.map (picture s))) ∧
      (∀ (s : Setting) (rockets : List Rocket),
        launchpad? (document s [.launchpad rockets]).text =
          some ((rockets.filter (!·.empty)).map (anchor s))) ∧
      (∀ (s s' : Setting) (layout layout' : Option Text) (es es' : List (ImageEntry (List Block))),
        es.length ≠ 1 → es'.length ≠ 1 →
        (document s [.image layout es]).text = (document s' [.image layout' es']).text →
          es.map (picture s) = es'.map (picture s')) ∧
      ∀ (s s' : Setting) (rockets rockets' : List Rocket),
        (document s [.launchpad rockets]).text = (document s' [.launchpad rockets']).text →
          (rockets.filter (!·.empty)).map (anchor s) =
            (rockets'.filter (!·.empty)).map (anchor s') := by
  refine ⟨fun s layout es => gallery?_document s layout, launchpad?_document, ?_, ?_⟩
  · intro s s' layout layout' es es' hes hes' htext
    have hread := gallery?_document s layout hes
    rw [htext, gallery?_document s' layout' hes'] at hread
    exact (Option.some.inj hread).symm
  · intro s s' rockets rockets' htext
    have hread := launchpad?_document s rockets
    rw [htext, launchpad?_document] at hread
    exact (Option.some.inj hread).symm

/-- A description with a quote, a tag and an entity in it, after a picture with a width that would
end its own attribute; the same text cut into other spans; and links, of which one is empty. -/
theorem fallbacks_recovered_quotes :
    let s : Setting := ⟨.ofTable [("h".toList, ⟨"/\"&".toList, none⟩)] [], 4⟩
    let es : List (ImageEntry (List Block)) :=
      [⟨"h".toList, some "1\" alt=\"x".toList, none, []⟩,
        ⟨"i".toList, none, some [], [.paragraph [[.text "\"> &lt;".toList, .toggle .super,
          .text "u".toList]]]⟩]
    let es' : List (ImageEntry (List Block)) :=
      [⟨"h".toList, some "1\" alt=\"x".toList, none, []⟩,
        ⟨"i".toList, none, some [], [.paragraph [[.text "\"> ".toList, .text "&lt;".toList,
          .toggle .super, .text "u".toList, .toggle .super]]]⟩]
    let rockets : List Rocket := [⟨⟨"h".toList, some "</a>&amp;".toList⟩, false⟩,
      ⟨⟨[], none⟩, true⟩]
    es.length ≠ 1 ∧ es'.length ≠ 1 ∧
      gallery? (document s [.image none es]).text =
        some [⟨"/\"&".toList, some "1\" alt=\"x".toList, none, none⟩,
          ⟨"i".toList, none, some [], some "\"> &lt;<sup>u</sup>".toList⟩] ∧
      launchpad? (document s [.launchpad rockets]).text =
        some [⟨"/\"&".toList, "</a>&amp;".toList⟩] ∧
      (document s [.image none es]).text = (document s [.image (some "grid".toList) es']).text ∧
      es.map (picture s) = es'.map (picture s) ∧
      (document s [.launchpad rockets]).text = (document s [.launchpad rockets.dropLast]).text ∧
      (rockets.filter (!·.empty)).map (anchor s) =
        (rockets.dropLast.filter (!·.empty)).map (anchor s) := by
  intro s es es' rockets
  have hes : es.length ≠ 1 := by decide
  have hes' : es'.length ≠ 1 := by decide
  have hgalleries : (document s [.image none es]).text =
      (document s [.image (some "grid".toList) es']).text := rfl
  have hlaunchpads : (document s [.launchpad rockets]).text =
      (document s [.launchpad rockets.dropLast]).text := rfl
  obtain ⟨hgallery, hlaunchpad, hpictures, hanchors⟩ := fallbacks_recovered
  exact ⟨hes, hes', (hgallery s none es hes).trans (by decide),
    (hlaunchpad s rockets).trans (by decide), hgalleries,
    hpictures s s none _ es es' hes hes' hgalleries, hlaunchpads,
    hanchors s s _ _ hlaunchpads⟩

end Export

end MarkupBridge
