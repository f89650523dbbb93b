import MarkupBridge.Export.Line

namespace MarkupBridge

namespace Wiki

namespace Span

def isText : Span → Bool
  | .text _ => true
  | _ => false

def isToggle : Span → Bool
  | .toggle _ => true
  | _ => false

/-- What a line says: its texts and links. -/
def said (ss : List Span) : List Span := ss.filter (!·.isToggle)

/-- Each span of a line with those before it, of which `before` come first. -/
def places (before : List Span) : List Span → List (List Span × Span)
  | [] => []
  | a :: ss => (before, a) :: places (before ++ [a]) ss

/-- Whether a style is toggled an odd number of times. -/
def isOdd (ss : List Span) (k : Style) : Bool := ss.count (.toggle k) % 2 == 1

/-- The styles that are toggled an odd number of times, outermost first. -/
def oddStyles (ss : List Span) : List Style := Style.nesting.filter (isOdd ss)

/-- Before each text that both lines say, a style is toggled an odd number of times in both or in
neither. -/
def SameParity (ss ts : List Span) : Prop :=
  ∀ p ∈ places [] ss, ∀ q ∈ places [] ts, p.2.isText = true → q.2.isText = true →
    said p.1 = said q.1 → ∀ k, isOdd p.1 k = isOdd q.1 k

theorem said_append (ss ts : List Span) : said (ss ++ ts) = said ss ++ said ts :=
  List.filter_append ss ts

/-- Only toggles come before what a line says first. -/
theorem exists_of_said_eq_cons {ss us : List Span} {a : Span} (h : said ss = a :: us) :
    ∃ toggles rest, ss = toggles ++ a :: rest ∧ said toggles = [] ∧ said rest = us := by
  obtain ⟨toggles, rest, rfl, htoggles, -, hrest⟩ := List.filter_eq_cons_iff.mp h
  exact ⟨toggles, rest, rfl, List.filter_eq_nil_iff.mpr htoggles, hrest⟩

theorem places_append (before ss ts : List Span) :
    places before (ss ++ ts) = places before ss ++ places (before ++ ss) ts := by
  induction ss generalizing before with
  | nil => rw [List.append_nil]; rfl
  | cons a ss ih => simp [places, ih]

theorem mem_places (before : List Span) (a : Span) (after : List Span) :
    (before, a) ∈ places [] (before ++ a :: after) := by
  rw [places_append]
  exact List.mem_append_right _ List.mem_cons_self

theorem isOdd_toggle (ss : List Span) (k x : Style) :
    isOdd (ss ++ [.toggle k]) x = ((x == k) != isOdd ss x) := by
  unfold isOdd
  rw [List.count_append, List.count_singleton]
  by_cases h : x = k
  · have hparity := Nat.mod_two_eq_zero_or_one (ss.count (.toggle k))
    rcases hparity with hparity | hparity <;> simp [h, Nat.add_mod, hparity]
  · have hne : (Span.toggle k == Span.toggle x) = false := by simp [Ne.symm h]
    simp [beq_eq_false_iff_ne.mpr h, hne]

/-- A span that is no toggle has no part in the parities. -/
theorem isOdd_concat (ss : List Span) {a : Span} (h : a.isToggle = false) :
    isOdd (ss ++ [a]) = isOdd ss := by
  funext k
  have hne : (a == Span.toggle k) = false := by
    cases a with
    | toggle _ => cases h
    | text _ | link _ => rfl
  rw [isOdd, List.count_append, List.count_singleton, hne]
  rfl

theorem oddStyles_concat (ss : List Span) {a : Span} (h : a.isToggle = false) :
    oddStyles (ss ++ [a]) = oddStyles ss := by
  rw [oddStyles, isOdd_concat ss h, oddStyles]

end Span

namespace Styles
open Wiki.Span

/-- The styles in force after some spans of a line. -/
def after (ss : List Span) : Styles := ⟨oddStyles ss⟩

theorem isOn_after (ss : List Span) (k : Style) : (after ss).isOn k = isOdd ss k :=
  isOn_filter (isOdd ss) k

theorem toggle_after (ss : List Span) (k : Style) :
    (after ss).toggle k = after (ss ++ [.toggle k]) := by
  have hodd : (fun x => (x == k) != (after ss).isOn x) = isOdd (ss ++ [.toggle k]) := by
    funext x
    rw [isOn_after, isOdd_toggle]
  rw [toggle, hodd, after, oddStyles]

theorem after_concat (ss : List Span) {a : Span} (h : a.isToggle = false) :
    after (ss ++ [a]) = after ss := by
  rw [after, oddStyles_concat ss h, after]

theorem after_congr {ss ts : List Span} (h : ∀ k, isOdd ss k = isOdd ts k) :
    after ss = after ts := by
  have hodd : isOdd ss = isOdd ts := funext h
  rw [after, oddStyles, hodd, after, oddStyles]

end Styles

end Wiki

namespace Export
open Text Wiki Span

/-- A span as it is written after those before it in its line: a text between the marks of the
styles toggled an odd number of times, a link as it is written anywhere. -/
def spanText (r : Resolver) (before : List Span) : Span → Text
  | .text t =>
    (oddStyles before).flatMap opening ++ t ++ (oddStyles before).reverse.flatMap closing
  | .toggle _ => []
  | .link l => link r l

theorem spans_places (r : Resolver) (before ss : List Span) :
    spans r (.after before) ss = (places before ss).flatMap fun p => spanText r p.1 p.2 := by
  induction ss generalizing before with
  | nil => rfl
  | cons a ss ih =>
    have ih := ih (before ++ [a])
    rw [places, List.flatMap_cons, ← ih]
    cases a with
    | text t =>
      rw [Styles.after_concat before rfl]
      rfl
    | toggle k =>
      rw [spans, Styles.toggle_after]
      rfl
    | link l =>
      rw [Styles.after_concat before rfl]
      rfl

theorem spans_toggles (r : Resolver) (before : List Span) {toggles : List Span}
    (h : said toggles = []) (ss : List Span) :
    spans r (.after before) (toggles ++ ss) = spans r (.after (before ++ toggles)) ss := by
  induction toggles generalizing before with
  | nil => rw [List.append_nil]; rfl
  | cons a toggles ih =>
    cases a with
    | toggle k =>
      rw [List.cons_append, spans, Styles.toggle_after, ih _ h, List.append_assoc]
      rfl
    | text t => cases h
    | link l => cases h

/-- Lines go on alike after spans that say the same, if the parities are the same before each text
that follows. -/
theorem spans_congr (r : Resolver) {before before' ss ts : List Span}
    (hbefore : said before = said before') (h : said ss = said ts)
    (hparity : SameParity (before ++ ss) (before' ++ ts)) :
    spans r (.after before) ss = spans r (.after before') ts := by
  induction ss generalizing before before' ts with
  | nil =>
    have hts := spans_toggles r before' h.symm []
    rw [List.append_nil] at hts
    exact hts.symm
  | cons a ss ih =>
    by_cases ha : a.isToggle = true
    · cases a with
      | toggle k =>
        rw [spans, Styles.toggle_after]
        refine ih ?_ h (by rwa [List.append_assoc])
        rw [said_append, hbefore]
        exact List.append_nil _
      | text t => cases ha
      | link l => cases ha
    · have ha : a.isToggle = false := by simpa using ha
      have hcons : said (a :: ss) = a :: said ss := List.filter_cons_of_pos (by simp [ha])
      rw [hcons] at h
      obtain ⟨toggles, rest, rfl, htoggles, hrest⟩ := exists_of_said_eq_cons h.symm
      have hsaid : said before = said (before' ++ toggles) := by
        rw [said_append, htoggles, List.append_nil, hbefore]
      rw [← List.append_assoc] at hparity
      rw [spans_toggles r before' htoggles]
      have ih : spans r (.after (before ++ [a])) ss =
          spans r (.after (before' ++ toggles ++ [a])) rest := by
        refine ih ?_ hrest.symm ?_
        · rw [said_append, said_append (before' ++ toggles), hsaid]
        · rwa [List.append_assoc before, List.append_assoc (before' ++ toggles)]
      rw [Styles.after_concat _ ha, Styles.after_concat _ ha] at ih
      cases a with
      | toggle k => cases ha
      | text t =>
        have hodd := hparity _ (mem_places before (.text t) ss) _
          (mem_places (before' ++ toggles) (.text t) rest) rfl rfl hsaid
        rw [spans, spans, ih, Styles.after_congr hodd]
      | link l => rw [spans, spans, ih]

/-- Lines that say the same are written the same if before each text the same styles are toggled an
odd number of times. Those are the styles whose marks are around the text, the outermost style
first; a link and another line have no part in them. -/
theorem line_parity (r : Resolver) :
    (∀ ss ts, said ss = said ts → SameParity ss ts → line r ss = line r ts) ∧
      (∀ ss, line r ss = (places [] ss).flatMap fun p => spanText r p.1 p.2) ∧
      ∀ ls, lines r ls = join ['\n'] (ls.map fun ss => lines r [ss]) :=
  ⟨fun ss ts h hparity => @spans_congr r [] [] ss ts rfl h hparity, spans_places r [], fun _ => rfl⟩

/-- Bold and mark in either order around a text, and italic twice or not at all, with a link in
between. -/
theorem line_parity_permuted :
    let ss : List Span := [.toggle .bold, .toggle .mark, .text ['a'], .toggle .bold,
      .link ⟨['l'], none⟩, .text ['b'], .toggle .super]
    let ts : List Span := [.toggle .mark, .toggle .italic, .toggle .bold, .toggle .italic,
      .text ['a'], .link ⟨['l'], none⟩, .toggle .bold, .text ['b']]
    said ss = said ts ∧ SameParity ss ts ∧
      line (.ofTable [] []) ss = line (.ofTable [] []) ts ∧
      line (.ofTable [] []) ts = "<mark>**a**</mark>[l](l)<mark>b</mark>".toList := by
  intro ss ts
  have hparity : SameParity ss ts := by
    have hall : ∀ k ∈ Style.nesting, ∀ p ∈ places [] ss, ∀ q ∈ places [] ts,
        p.2.isText = true → q.2.isText = true → said p.1 = said q.1 →
          isOdd p.1 k = isOdd q.1 k := by
      decide
    exact fun p hp q hq ht hu hsaid k => hall k (Style.mem_nesting k) p hp q hq ht hu hsaid
  have hsaid : said ss = said ts := by decide
  exact ⟨hsaid, hparity, (line_parity _).1 ss ts hsaid hparity, by decide⟩

end Export

end MarkupBridge
