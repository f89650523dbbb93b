import MarkupBridge.Proofs.LineForm
import MarkupBridge.Proofs.Toggles

namespace MarkupBridge

namespace Text

/-- What stands before the first mark has no mark in it. -/
theorem not_isInfix_of_cut? {mark t a b : Text} (hmark : mark ≠ [])
    (h : cut? mark t = some (a, b)) : ¬ mark <:+: a := by
  have hnil : ¬ mark <:+: [] := fun hi => hmark (List.eq_nil_of_infix_nil hi)
  induction t generalizing a with
  | nil =>
    obtain ⟨r, -, he⟩ := Option.map_eq_some_iff.mp h
    cases he
    exact hnil
  | cons c t ih =>
    unfold cut? at h
    split at h
    · cases h
      exact hnil
    · next hnone =>
      obtain ⟨⟨before, after⟩, hcut, he⟩ := Option.map_eq_some_iff.mp h
      cases he
      intro hi
      rcases List.infix_cons_iff.mp hi with ⟨r, hr⟩ | hi
      · have hfound : after? mark (c :: t) = some (r ++ mark ++ b) := by
          rw [after?_eq_some_iff, eq_of_cut? hcut, ← List.append_assoc, ← List.append_assoc, hr]
          rfl
        rw [hnone] at hfound
        cases hfound
      · exact ih hcut hi

end Text

namespace Wiki
open Text

/-- The inside of a link in double brackets: the address is what stands before the first bar, the
text what stands after it, if that is more than blanks. -/
inductive Link.Inside : Text → Link → Prop
  | plain {t : Text} : '|' ∉ t → Inside t ⟨trim t, none⟩
  | barred {t u : Text} : '|' ∉ t → Inside (t ++ '|' :: u) ⟨trim t, nonempty? (trim u)⟩

theorem Link.inside_read (t : Text) : Inside t (read t) := by
  unfold read
  split
  · next address text hcut =>
    rw [eq_of_cutChar? hcut]
    exact .barred (not_mem_of_cutChar? hcut)
  · next hcut => exact .plain (not_mem_of_cutChar?_eq_none hcut)

/-- A text with each backslash given up for the character after it. A backslash with none after it
stands for itself, at the end of a line only. -/
def unescaped? (atEnd : Bool) : Text → Option Text
  | [] => some []
  | ['\\'] => if atEnd then some ['\\'] else none
  | '\\' :: c :: t => (unescaped? atEnd t).map (c :: ·)
  | c :: t => (unescaped? atEnd t).map (c :: ·)

/-- A character that is no backslash is no escape. -/
theorem unescaped?_cons (atEnd : Bool) {c : Char} (hc : c ≠ '\\') (t : Text) :
    unescaped? atEnd (c :: t) = (unescaped? atEnd t).map (c :: ·) := by
  rw [unescaped?] <;> simp [hc]

/-- Nothing is given up across the end of a text that has no backslash left over. -/
theorem unescaped?_append {atEnd : Bool} {s t u v : Text} (hs : unescaped? false s = some u)
    (ht : unescaped? atEnd t = some v) : unescaped? atEnd (s ++ t) = some (u ++ v) := by
  fun_induction unescaped? false s generalizing u with
  | case1 =>
    cases hs
    exact ht
  | case2 h => cases h
  | case3 => cases hs
  | case4 c s ih =>
    obtain ⟨u, hu, rfl⟩ := Option.map_eq_some_iff.mp hs
    rw [List.cons_append, List.cons_append, unescaped?, ih hu]
    rfl
  | case5 c s hend hpair ih =>
    obtain ⟨u, hu, rfl⟩ := Option.map_eq_some_iff.mp hs
    have hc : c ≠ '\\' := by
      rintro rfl
      cases s with
      | nil => exact hend rfl rfl
      | cons d s => exact hpair d s rfl rfl
    rw [List.cons_append, unescaped?_cons atEnd hc, ih hu]
    rfl

/-- How a span is written, with monospace on or off before it, and with something after it or at the
end of its line. -/
def Span.WrittenAs (mono atEnd : Bool) (source : Text) : Span → Prop
  | .toggle s => source = s.delimiter
  | .link l => l.address ≠ [] ∧
    ((∃ inside, source = ['[', '['] ++ inside ++ [']', ']'] ∧ ¬ [']', ']'] <:+: inside ∧
        Link.Inside inside l) ∨
      l = ⟨source, none⟩ ∧ Address.hasScheme source = true ∧ ∀ c ∈ source, isBlank c = false)
  | .text t => if mono then source = t ∧ '\x60' ∉ t else unescaped? atEnd source = some t

/-- Two stretches of text in a row are written as one. -/
theorem Span.writtenAs_text_append {mono atEnd : Bool} {s t u v : Text}
    (hs : (text u).WrittenAs mono false s) (ht : (text v).WrittenAs mono atEnd t) :
    (text (u ++ v)).WrittenAs mono atEnd (s ++ t) := by
  cases mono with
  | true =>
    obtain ⟨rfl, hs⟩ := hs
    obtain ⟨rfl, ht⟩ := ht
    exact ⟨rfl, fun h => (List.mem_append.mp h).elim hs ht⟩
  | false => exact unescaped?_append hs ht

/-- A span with the stretch of the line it was read from. -/
structure Segment where
  source : Text
  span : Span

/-- The span of a piece on its own. -/
def Token.span : Token → Span
  | .char c => .text [c]
  | .toggle s => .toggle s
  | .link l => .link l

/-- Whether monospace is on after a span. -/
def Span.monoAfter (mono : Bool) : Span → Bool
  | .toggle .mono => !mono
  | _ => mono

theorem Token.flips_eq (mono : Bool) (token : Token) :
    Piece.flips mono token = token.span.monoAfter mono := by
  cases token with
  | toggle s => cases s <;> rfl
  | char c => rfl
  | link l => rfl

theorem Span.isOdd_mono_concat (ss : List Span) (a : Span) :
    isOdd (ss ++ [a]) .mono = a.monoAfter (isOdd ss .mono) := by
  cases a with
  | toggle s =>
    rw [isOdd_toggle]
    cases s <;> cases isOdd ss .mono <;> rfl
  | text t => exact congrFun (isOdd_concat ss rfl) .mono
  | link l => exact congrFun (isOdd_concat ss rfl) .mono

/-- A character goes to the front of the text after it, and all else is a span on its own. -/
theorem Span.gather_cons (token : Token) (ts : List Token) :
    (∃ c t ss, token = .char c ∧ gather ts = .text t :: ss ∧
      gather (token :: ts) = .text (c :: t) :: ss) ∨
      gather (token :: ts) = token.span :: gather ts := by
  cases token with
  | char c =>
    rcases gather_char c ts with ⟨t, ss, hg, he⟩ | ⟨-, he⟩
    · exact .inl ⟨c, t, ss, rfl, hg, he⟩
    · exact .inr he
  | toggle s => exact .inr rfl
  | link l => exact .inr rfl

/-- A piece is a span on its own, written by the source of the piece. -/
theorem Piece.first_writtenAs (prev : Option Char) (mono : Bool) (c : Char) (t : Text) :
    (first prev mono c t).token.span.WrittenAs mono
      ((c :: t).drop (first prev mono c t).source.length).isEmpty (first prev mono c t).source := by
  unfold first
  split
  · next hmono =>
    subst hmono
    split
    · next hc => rw [hc]; rfl
    · next hc =>
      refine ⟨rfl, fun hmem => hc ?_⟩
      exact (List.mem_singleton.mp hmem).symm
  next hmono =>
  obtain rfl : mono = false := by simpa using hmono
  split
  · next hc =>
    subst hc
    cases t with
    | nil => rfl
    | cons d t => rfl
  next hc =>
  split
  · next inside rest hlink =>
    obtain ⟨hbrackets, -⟩ := Option.filter_eq_some_iff.mp hlink
    obtain ⟨u, -, hcut⟩ := Option.bind_eq_some_iff.mp hbrackets
    have haddress := (wellFormed_of_bracketed? hlink).address_ne_nil
    refine ⟨haddress, .inl ⟨inside, rfl, ?_, Link.inside_read inside⟩⟩
    exact not_isInfix_of_cut? (by decide) hcut
  split
  · next url hurl =>
    have hscheme := hasScheme_of_address? hurl
    exact ⟨address?_ne_nil hurl, .inr ⟨rfl, hscheme, not_isBlank_of_address? hurl⟩⟩
  split
  · rfl
  · exact unescaped?_cons _ hc []

namespace Segment

/-- Segments after which a line ends, with monospace on or off before them. -/
def Follow (mono : Bool) : List Segment → Prop
  | [] => True
  | s :: ss => (s.source ≠ [] ∧ s.span.WrittenAs mono ss.isEmpty s.source) ∧
    Follow (s.span.monoAfter mono) ss

theorem Follow.isEmpty {mono : Bool} {ss : List Segment} (h : Follow mono ss) :
    (ss.flatMap (·.source)).isEmpty = ss.isEmpty := by
  cases ss with
  | nil => rfl
  | cons s ss =>
    cases hs : s.source with
    | nil => exact absurd hs h.1.1
    | cons c t => simp [hs]

theorem Follow.writtenAs {done : List Span} {ss : List Segment}
    (h : Follow (Span.isOdd done .mono) ss) {before after : List Segment} {s : Segment}
    (hss : ss = before ++ s :: after) : s.source ≠ [] ∧
      s.span.WrittenAs (Span.isOdd (done ++ before.map (·.span)) .mono) after.isEmpty s.source := by
  induction before generalizing done ss with
  | nil =>
    subst hss
    rw [List.map_nil, List.append_nil]
    exact h.1
  | cons b before ih =>
    subst hss
    have hnext := h.2
    rw [← Span.isOdd_mono_concat] at hnext
    rw [List.map_cons, List.append_cons]
    exact ih hnext rfl

/-- The pieces of a text make segments. -/
theorem exists_follow (prev : Option Char) (mono : Bool) (t : Text) :
    ∃ ss : List Segment, ss.map (·.span) = Span.gather ((Piece.all prev mono t).map (·.token)) ∧
      ss.flatMap (·.source) = t ∧ Follow mono ss := by
  fun_induction Piece.all prev mono t with
  | case1 => exact ⟨[], rfl, rfl, trivial⟩
  | case2 prev mono c t p ih =>
    obtain ⟨ss, hspans, hsource, hfollow⟩ := ih
    have hne : p.source ≠ [] := Piece.first_source_ne_nil prev mono c t
    have hwritten : p.token.span.WrittenAs mono ss.isEmpty p.source := by
      rw [← hfollow.isEmpty, hsource]
      exact Piece.first_writtenAs prev mono c t
    have hwhole : p.source ++ ss.flatMap (·.source) = c :: t := by
      rw [hsource]
      exact List.prefix_iff_eq_append.mp (Piece.first_source_isPrefix prev mono c t)
    rw [Token.flips_eq] at hfollow
    rw [List.map_cons]
    rcases Span.gather_cons p.token ((Piece.all _ _ _).map (·.token)) with
      ⟨d, u, more, htoken, hrest, hgather⟩ | hgather
    · -- The character joins the text that the segment after it stands for.
      obtain ⟨s, ss, rfl, hspan, hmore⟩ := List.map_eq_cons_iff.mp (hspans.trans hrest)
      rw [htoken] at hwritten hfollow
      obtain ⟨⟨-, hs⟩, hss⟩ := hfollow
      rw [hspan] at hs hss
      refine ⟨⟨p.source ++ s.source, .text (d :: u)⟩ :: ss, ?_, ?_, ⟨?_, ?_⟩, hss⟩
      · rw [hgather, List.map_cons, hmore]
      · rw [← hwhole, List.flatMap_cons, List.flatMap_cons, List.append_assoc]
      · exact List.append_ne_nil_of_left_ne_nil hne _
      · exact Span.writtenAs_text_append hwritten hs
    · refine ⟨⟨p.source, p.token.span⟩ :: ss, ?_, hwhole, ⟨hne, hwritten⟩, hfollow⟩
      rw [hgather, List.map_cons, hspans]

end Segment

/-- A line falls into segments that are not empty, one for each of its spans in order: a toggle's is
its delimiter, a link's is in double brackets or is the address, and a text's is the text, with its
escapes unless monospace is on. -/
theorem Span.exists_segments (line : Text) :
    ∃ segments : List Segment, segments.map (·.span) = ofLine line ∧
      segments.flatMap (·.source) = line ∧
      ∀ before s after, segments = before ++ s :: after → s.source ≠ [] ∧
        s.span.WrittenAs (isOdd (before.map (·.span)) .mono) after.isEmpty s.source := by
  obtain ⟨segments, hspans, hsource, hfollow⟩ := Segment.exists_follow none false line
  have hfollow : Segment.Follow (isOdd [] .mono) segments := hfollow
  exact ⟨segments, hspans, hsource, fun before s after h => hfollow.writtenAs h⟩

end Wiki

end MarkupBridge
