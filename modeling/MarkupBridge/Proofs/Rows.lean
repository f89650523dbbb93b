import MarkupBridge.Markdown.Character
import MarkupBridge.Proofs.Reading
import MarkupBridge.Proofs.Tokens

namespace MarkupBridge.Wiki.Row
open Text

/-- Bars, exclamation marks, and all that is neither punctuation nor a line feed: letters, digits
and spaces of any script among it. -/
def isCellChar (c : Char) : Bool :=
  c == '|' || c == '!' || !(Markdown.isAsciiPunctuation c || c == '\n')

theorem ne_of_isCellChar {c d : Char} (hc : isCellChar c = true) (hd : isCellChar d = false) :
    c ≠ d := by
  rintro rfl
  rw [hc] at hd
  cases hd

theorem standsAlone_of_isCellChar {c : Char} (hc : isCellChar c = true) :
    standsAlone c = true :=
  standsAlone_of_all (by decide) hc

/-- A text that a cell can have to itself: some of its characters are not blank. -/
structure IsCellText (t : Text) : Prop where
  chars : ∀ c ∈ t, isCellChar c = true
  visible : isBlankLine t = false

instance : DecidablePred IsCellText := fun t =>
  decidable_of_iff (t.all isCellChar = true ∧ isBlankLine t = false)
    ⟨fun h => ⟨List.all_eq_true.mp h.1, h.2⟩, fun h => ⟨List.all_eq_true.mpr h.1, h.2⟩⟩

/-- A cell's text as it is written: not empty, and with no blank at its ends. -/
structure IsWritten (t : Text) : Prop where
  chars : ∀ c ∈ t, isCellChar c = true
  ne_nil : t ≠ []
  trimmed : trim t = t

theorem IsCellText.trim {t : Text} (h : IsCellText t) : IsWritten (trim t) :=
  ⟨fun c hc => h.chars c ((trim_isInfix t).subset hc), trim_ne_nil h.visible, trim_trim t⟩

theorem startsWith_pair (a b c : Char) (t : Text) :
    startsWith [a, b] (c :: t) = (decide (a = c) && t.head? == some b) := by
  unfold startsWith after?
  by_cases ha : a = c
  · cases t with
    | nil => simp [ha, after?]
    | cons d t =>
      by_cases hb : b = d
      · simp [ha, hb, after?]
      · simp [ha, hb, Ne.symm hb, after?]
  · simp [ha]

/-- A bracket is a double one by the character after it alone. -/
theorem linkOpen_congr {t u : Text} (hopen : t.head? = some '[' ↔ u.head? = some '[')
    (hclose : t.head? = some ']' ↔ u.head? = some ']') (isOpen : Bool) (c : Char) :
    linkOpen isOpen (c :: t) = linkOpen isOpen (c :: u) := by
  have hpair : ∀ b, (t.head? = some b ↔ u.head? = some b) →
      (t.head? == some b) = (u.head? == some b) := by
    intro b h
    rw [Bool.eq_iff_iff, beq_iff_eq, beq_iff_eq, h]
  unfold linkOpen
  rw [startsWith_pair, startsWith_pair, startsWith_pair, startsWith_pair, hpair '[' hopen,
    hpair ']' hclose]

theorem linkOpen_of_ne {c : Char} (hopen : c ≠ '[') (hclose : c ≠ ']') (isOpen : Bool)
    (t : Text) : linkOpen isOpen (c :: t) = isOpen := by
  unfold linkOpen
  rw [startsWith_pair, startsWith_pair, decide_eq_false (Ne.symm hopen),
    decide_eq_false (Ne.symm hclose)]
  rfl

theorem linkOpen_of_isDelimiter {prev : Option Char} {c : Char} (h : isDelimiter prev c = true)
    (isOpen : Bool) (t : Text) : linkOpen isOpen (c :: t) = isOpen := by
  apply linkOpen_of_ne
  · rintro rfl
    cases h
  · rintro rfl
    cases h

theorem escapeAfter_delimiter {inLink : Bool} {prev : Option Char} {c : Char} {t : Text}
    (h : (!linkOpen inLink (c :: t) && isDelimiter prev c) = true) :
    escapeAfter inLink prev (c :: t) = '\\' :: c :: escapeAfter inLink (some c) t := by
  have hlink := linkOpen_of_isDelimiter (Bool.and_eq_true_iff.mp h).2 inLink t
  rw [escapeAfter, if_pos h, hlink]

theorem escapeAfter_plain {inLink : Bool} {prev : Option Char} {c : Char} {t : Text}
    (h : (!linkOpen inLink (c :: t) && isDelimiter prev c) = false) :
    escapeAfter inLink prev (c :: t) =
      c :: escapeAfter (linkOpen inLink (c :: t)) (some c) t := by
  rw [escapeAfter, h, if_neg Bool.false_ne_true]

theorem escapeAfter_backslash (inLink : Bool) (prev : Option Char) (t : Text) :
    escapeAfter inLink prev ('\\' :: t) = '\\' :: escapeAfter inLink (some '\\') t := by
  have hslash : isDelimiter prev '\\' = false := rfl
  rw [escapeAfter_plain (by rw [hslash, Bool.and_false]), linkOpen_of_ne (by decide) (by decide)]

theorem mem_escapeAfter {inLink : Bool} {prev : Option Char} {t : Text} {c : Char}
    (h : c ∈ escapeAfter inLink prev t) : c = '\\' ∨ c ∈ t := by
  induction t generalizing inLink prev with
  | nil => cases h
  | cons d t ih =>
    simp only [escapeAfter] at h
    split at h
    · rcases List.mem_cons.mp h with rfl | h
      · exact .inl rfl
      rcases List.mem_cons.mp h with rfl | h
      · exact .inr List.mem_cons_self
      · exact (ih h).imp_right (List.mem_cons_of_mem d)
    · rcases List.mem_cons.mp h with rfl | h
      · exact .inr List.mem_cons_self
      · exact (ih h).imp_right (List.mem_cons_of_mem d)

/-- An escaped text ends as the text does. -/
theorem getLast?_escapeAfter (inLink : Bool) (prev : Option Char) (t : Text) :
    (escapeAfter inLink prev t).getLast? = t.getLast? := by
  have hcons : ∀ {u v : Text} (c : Char), u.getLast? = v.getLast? →
      (c :: u).getLast? = (c :: v).getLast? := by
    intro u v c h
    rw [List.getLast?_cons, List.getLast?_cons, h]
  induction t generalizing inLink prev with
  | nil => rfl
  | cons c t ih =>
    simp only [escapeAfter]
    split
    · rw [List.getLast?_cons_cons]
      exact hcons c (ih _ _)
    · exact hcons c (ih _ _)

theorem head?_escapeAfter {inLink : Bool} {prev : Option Char} {t : Text} {c : Char}
    (h : (escapeAfter inLink prev t).head? = some c) : c = '\\' ∨ t.head? = some c := by
  cases t with
  | nil => cases h
  | cons d t =>
    simp only [escapeAfter] at h
    split at h
    · cases h
      exact .inl rfl
    · cases h
      exact .inr rfl

theorem escape_ne_nil {t : Text} (h : t ≠ []) : escape t ≠ [] := by
  intro hnil
  have hlast := getLast?_escapeAfter false none t
  rw [← escape, hnil] at hlast
  exact h (List.getLast?_eq_none_iff.mp hlast.symm)

theorem trim_escape {t : Text} (h : trim t = t) : trim (escape t) = escape t := by
  refine trim_eq_self (fun c hc => ?_) fun c hc => ?_
  · rcases head?_escapeAfter hc with rfl | hc
    · decide
    · rw [← h] at hc
      exact isBlank_of_head?_trim hc
  · rw [escape, getLast?_escapeAfter, ← h] at hc
    exact isBlank_of_getLast?_trim hc

/-- A word can start after a blank as it can where a text starts. -/
theorem escape_eq_escapeAfter (t : Text) : escape t = escapeAfter false (some ' ') t := by
  cases t with
  | nil => rfl
  | cons c t =>
    have hdelimiter : isDelimiter none c = isDelimiter (some ' ') c := rfl
    rw [escape, escapeAfter, escapeAfter, hdelimiter]

theorem scan_plain {inLink : Bool} {prev : Option Char} {c : Char} (hslash : c ≠ '\\')
    (hc : (!inLink && isDelimiter prev c) = false) (t : Text) : scan inLink prev (c :: t) =
      (c :: (scan (linkOpen inLink (c :: t)) (some c) t).1,
        (scan (linkOpen inLink (c :: t)) (some c) t).2) := by
  rw [scan.eq_4 inLink prev c t (fun h _ => hslash h) (fun _ _ h _ => hslash h), hc]
  rfl

theorem scan_blank (inLink : Bool) (prev : Option Char) (t : Text) :
    scan inLink prev (' ' :: t) =
      (' ' :: (scan inLink (some ' ') t).1, (scan inLink (some ' ') t).2) := by
  have hblank : isDelimiter prev ' ' = false := rfl
  have hdelimiter : (!inLink && isDelimiter prev ' ') = false := by rw [hblank, Bool.and_false]
  have hplain := scan_plain (by decide) hdelimiter t
  rwa [linkOpen_of_ne (by decide) (by decide)] at hplain

theorem scan_escaped (inLink : Bool) (prev : Option Char) (c : Char) (t : Text) :
    scan inLink prev ('\\' :: c :: t) =
      ('\\' :: c :: (scan inLink (some c) t).1, (scan inLink (some c) t).2) := by
  rw [scan.eq_3]

/-- The end of a row, or a blank and more of the row. -/
def Apart (rest : Text) : Prop := ∀ c ∈ rest.head?, c = ' '

theorem Apart.nil : Apart [] := by
  intro c hc
  cases hc

theorem Apart.blank (t : Text) : Apart (' ' :: t) := by
  intro c hc
  exact (Option.some.inj hc).symm

theorem Apart.scan_eq {rest : Text} (h : Apart rest) (inLink : Bool) (prev prev' : Option Char) :
    scan inLink prev rest = scan inLink prev' rest := by
  cases rest with
  | nil => rw [scan, scan]
  | cons c t =>
    obtain rfl := h c rfl
    rw [scan_blank, scan_blank]

/-- What opens a cell, a header or another one. -/
def mark (header : Bool) : Char := if header then '!' else '|'

/-- A run of marks where a word can start opens a cell over as many columns. -/
theorem scan_run {prev : Option Char} (hprev : prev.all isBlank = true) (header : Bool) (more : Nat)
    {rest : Text} (hrest : Apart rest) :
    scan false prev (mark header :: (List.replicate more (mark header) ++ rest)) =
      ([], ⟨(scan false none rest).1, more + 1, header⟩ :: (scan false none rest).2) := by
  have hmark : mark header ≠ '\\' ∧ isDelimiter prev (mark header) = true ∧
      (mark header == '!') = header ∧ mark header ≠ ' ' := by
    cases header with
    | true => exact ⟨by decide, by rw [isDelimiter, hprev]; rfl, rfl, by decide⟩
    | false => exact ⟨by decide, rfl, rfl, by decide⟩
  obtain ⟨hslash, hopens, hheader, hblank⟩ := hmark
  have hrun : ∀ c ∈ List.replicate more (mark header), (c == mark header) = true :=
    fun c hc => by simp [List.eq_of_mem_replicate hc]
  have hstop : ∀ c ∈ rest.head?, (c == mark header) = false :=
    fun c hc => by simp [hrest c hc, Ne.symm hblank]
  obtain ⟨htake, hdrop⟩ := takeWhile_append_of_head? hrun hstop
  rw [scan.eq_4 false prev _ _ (fun h _ => hslash h) (fun _ _ h _ => hslash h), hopens, htake,
    hdrop, hheader, hrest.scan_eq false (some (mark header)) none, List.length_replicate]
  rfl

/-- A backslash at the end of a text escapes the blank after it, which is as good as that blank. -/
theorem scan_backslash {rest : Text} (hrest : Apart rest) (inLink : Bool) (prev : Option Char) :
    scan inLink prev ('\\' :: rest) =
      ('\\' :: (scan inLink none rest).1, (scan inLink none rest).2) := by
  cases rest with
  | nil => rw [scan, scan]
  | cons c t =>
    obtain rfl := hrest c rfl
    rw [scan_escaped, scan_blank]

/-- Escaping parts no two brackets and joins none. -/
theorem linkOpen_escapeAfter {rest : Text} (hrest : Apart rest) (isOpen inLink : Bool) (c : Char)
    (prev : Option Char) (t : Text) :
    linkOpen isOpen (c :: (escapeAfter inLink prev t ++ rest)) = linkOpen isOpen (c :: t) := by
  have hhead : ∀ b, b ≠ '\\' → b ≠ ' ' → (∀ p, isDelimiter p b = false) →
      ((escapeAfter inLink prev t ++ rest).head? = some b ↔ t.head? = some b) := by
    intro b hslash hblank hb
    cases t with
    | nil =>
      constructor
      · intro h
        exact absurd (hrest b h) hblank
      · intro h
        cases h
    | cons d t =>
      rw [escapeAfter]
      split
      · next hd =>
        constructor
        · intro h
          exact absurd (Option.some.inj h).symm hslash
        · intro h
          obtain rfl := Option.some.inj h
          rw [hb] at hd
          simp at hd
      · exact Iff.rfl
  exact linkOpen_congr (hhead '[' (by decide) (by decide) fun _ => rfl)
    (hhead ']' (by decide) (by decide) fun _ => rfl) isOpen c

/-- Whether the scanner is inside a link after a text that is escaped, unless it opens a cell in it.
Escaping and scanning have each their own view of links: to the scanner a bracket after a backslash
is none, to escaping (`escaping`) it is one like any other. -/
def linkFrom? (escaping inLink : Bool) (prev : Option Char) : Text → Option Bool
  | [] => some inLink
  | ['\\'] => some inLink
  | '\\' :: d :: t =>
    -- The backslash that is written before the bar is escaped by the one of the text.
    if !escaping && !inLink && d == '|' then none
    else linkFrom? (linkOpen escaping (d :: t)) inLink (some d) t
  | c :: t =>
    if escaping && !inLink && isDelimiter prev c then none
    else linkFrom? (linkOpen escaping (c :: t)) (linkOpen inLink (c :: t)) (some c) t

/-- Whether the text of a cell, which stands after a blank, leaves a link open behind it. -/
def linkAfter? (t : Text) : Option Bool := linkFrom? false false (some ' ') t

theorem eq_bar_of_isDelimiter {d : Char} (h : isDelimiter (some '\\') d = true) : d = '|' := by
  have hslash : isBlank '\\' = false := by decide
  simpa [isDelimiter, hslash] using h

/-- An escaped text opens no cell, and what comes after it is scanned by itself. -/
theorem scan_escapeAfter {escaping inLink out : Bool} {prev : Option Char} {t : Text}
    (h : linkFrom? escaping inLink prev t = some out) {rest : Text} (hrest : Apart rest) :
    scan inLink prev (escapeAfter escaping prev t ++ rest) =
      (escapeAfter escaping prev t ++ (scan out none rest).1, (scan out none rest).2) := by
  -- The text is taken as the scanner takes it: a backslash with the character after it at once.
  fun_induction linkFrom? escaping inLink prev t with
  | case1 =>
    cases h
    exact hrest.scan_eq ..
  | case2 =>
    cases h
    rw [escapeAfter_backslash]
    exact scan_backslash hrest ..
  | case3 => cases h
  | case4 escaping inLink prev d t hd ih =>
    have ih := ih h
    rw [escapeAfter_backslash]
    cases hbar : !linkOpen escaping (d :: t) && isDelimiter (some '\\') d with
    | false =>
      rw [escapeAfter_plain hbar, List.cons_append, List.cons_append, scan_escaped, ih]
      rfl
    | true =>
      -- Two backslashes leave the bar behind them bare, so it has to be in a link to the scanner.
      obtain ⟨hout, hdelimiter⟩ := Bool.and_eq_true_iff.mp hbar
      obtain rfl := eq_bar_of_isDelimiter hdelimiter
      rw [linkOpen_of_isDelimiter hdelimiter] at hout ih
      have hin : inLink = true := by simpa [hout] using hd
      have hplain : (!inLink && isDelimiter (some '\\') '|') = false := by rw [hin]; rfl
      rw [escapeAfter_delimiter hbar, List.cons_append, List.cons_append, List.cons_append,
        scan_escaped, scan_plain (by decide) hplain, linkOpen_of_isDelimiter hdelimiter, ih]
      rfl
  | case5 => cases h
  | case6 escaping inLink prev c t hend hpair hc ih =>
    have ih := ih h
    cases hescape : !linkOpen escaping (c :: t) && isDelimiter prev c with
    | true =>
      have hdelimiter := (Bool.and_eq_true_iff.mp hescape).2
      rw [linkOpen_of_isDelimiter hdelimiter, linkOpen_of_isDelimiter hdelimiter] at ih
      rw [escapeAfter_delimiter hescape, List.cons_append, List.cons_append, scan_escaped, ih]
      rfl
    | false =>
      have hplain : (!inLink && isDelimiter prev c) = false := by
        by_cases hdelimiter : isDelimiter prev c = true
        · rw [linkOpen_of_isDelimiter hdelimiter] at hescape
          simp_all
        · simp [hdelimiter]
      have hslash : c ≠ '\\' := by
        rintro rfl
        cases t with
        | nil => exact hend rfl rfl
        | cons d t => exact hpair d t rfl rfl
      rw [escapeAfter_plain hescape, List.cons_append, scan_plain hslash hplain,
        linkOpen_escapeAfter hrest, ih]
      rfl

/-- A cell of a row as it is written, with a blank after its delimiter. -/
def written (cell : Bool × Text) : Text :=
  (if cell.1 then '!' else '|') :: ' ' :: escape cell.2

/-- A row as it is written, with a blank between any two cells. -/
def line (row : List (Bool × Text)) : Text := join [' '] (row.map written)

def trimmed (cell : Cell Text) : Cell Text := { cell with contents := trim cell.contents }

/-- Where a word can start a cell is read with all that comes before the next one. -/
theorem scan_written {prev : Option Char} (hprev : prev.all isBlank = true) (header : Bool)
    {t rest : Text} {out : Bool} (h : linkAfter? t = some out) (hrest : Apart rest) :
    scan false prev (written (header, t) ++ rest) =
      ([], ⟨' ' :: escape t ++ (scan out none rest).1, 1, header⟩ :: (scan out none rest).2) := by
  have hscan := scan_escapeAfter h hrest
  rw [← escape_eq_escapeAfter] at hscan
  refine (scan_run hprev header 0 (.blank (escape t ++ rest))).trans ?_
  rw [scan_blank, hscan]
  rfl

/-- Cells with a blank after each of them are scanned one by one, and what follows them as where a
word can start. -/
theorem scan_cells {row : List (Bool × Text)} (h : ∀ cell ∈ row, linkAfter? cell.2 = some false)
    {last : Text} {cells : Row Text}
    (hlast : ∀ prev : Option Char, prev.all isBlank = true → scan false prev last = ([], cells))
    {prev : Option Char} (hprev : prev.all isBlank = true) :
    scan false prev ((row.map written).flatMap (· ++ [' ']) ++ last) =
      ([], row.map (fun cell => ⟨' ' :: escape cell.2 ++ [' '], 1, cell.1⟩) ++ cells) := by
  induction row generalizing prev with
  | nil => exact hlast prev hprev
  | cons cell row ih =>
    have hblank : (some ' ').all isBlank = true := rfl
    have ih := ih (fun c hc => h c (List.mem_cons_of_mem cell hc)) hblank
    rw [List.map_cons, List.flatMap_cons, List.append_assoc, List.append_assoc]
    show scan false prev (written (cell.1, cell.2) ++ ' ' :: (_ ++ last)) = _
    rw [scan_written hprev cell.1 (h cell List.mem_cons_self) (.blank _), scan_blank, ih]
    rfl

/-- The last cell of a row as it is written: no blank stands at its end. -/
def writtenLast (cell : Bool × Text) : Text :=
  if cell.2.isEmpty then [if cell.1 then '!' else '|'] else written cell

theorem scan_writtenLast {cell : Bool × Text} (h : (linkAfter? cell.2).isSome = true)
    (htrim : trim cell.2 = cell.2) : ∃ contents, trim contents = escape cell.2 ∧
      ∀ prev : Option Char, prev.all isBlank = true →
        scan false prev (writtenLast cell) = ([], [⟨contents, 1, cell.1⟩]) := by
  obtain ⟨header, t⟩ := cell
  obtain ⟨out, hout⟩ := Option.isSome_iff_exists.mp h
  by_cases ht : t = []
  · subst ht
    refine ⟨[], rfl, fun prev hprev => (scan_run hprev header 0 .nil).trans ?_⟩
    rw [scan]
  · refine ⟨' ' :: escape t, by rw [trim_cons (by decide), trim_escape htrim], fun prev hprev => ?_⟩
    have hwritten : writtenLast (header, t) = written (header, t) := if_neg (by simpa using ht)
    have hscan := scan_written hprev header hout .nil
    rw [scan, List.append_nil, List.append_nil] at hscan
    rw [hwritten, hscan]

theorem isBlank_of_getLast?_written {cell : Bool × Text} (hne : cell.2 ≠ [])
    (htrim : trim cell.2 = cell.2) {c : Char} (hc : (written cell).getLast? = some c) :
    isBlank c = false := by
  have hlast : (written cell).getLast? = (escape cell.2).getLast? := by
    rw [written, List.getLast?_cons_cons, List.getLast?_cons_of_ne_nil (escape_ne_nil hne)]
  rw [hlast, escape, getLast?_escapeAfter, ← htrim] at hc
  exact isBlank_of_getLast?_trim hc

/-- The blanks at the end of a row are trimmed off. -/
theorem trimEnd_written (row : List (Bool × Text)) {cell : Bool × Text}
    (htrim : trim cell.2 = cell.2) :
    trimEnd (((row ++ [cell]).map written).flatMap (· ++ [' '])) =
      (row.map written).flatMap (· ++ [' ']) ++ writtenLast cell := by
  rw [List.map_append, List.flatMap_append, List.map_singleton, List.flatMap_singleton,
    ← List.append_assoc, trimEnd_concat (by decide)]
  obtain ⟨header, t⟩ := cell
  by_cases ht : t = []
  · have hsign : isBlank (if header then '!' else '|') = false := by cases header <;> decide
    subst ht
    show trimEnd (_ ++ ([if header then '!' else '|'] ++ [' '])) = _
    rw [← List.append_assoc, trimEnd_concat (by decide)]
    refine trimEnd_eq_self fun c hc => ?_
    rw [List.getLast?_concat] at hc
    obtain rfl := Option.some.inj hc
    exact hsign
  · have hwritten : writtenLast (header, t) = written (header, t) := if_neg (by simpa using ht)
    rw [hwritten]
    refine trimEnd_eq_self fun c hc => ?_
    rw [getLast?_append_of_ne_nil (t := written (header, t)) _ (List.cons_ne_nil _ _)] at hc
    exact isBlank_of_getLast?_written ht htrim hc

/-- Trimmed texts of a row: none opens a cell once it is escaped, and none leaves a link open for
the cell after it. -/
structure Sealed (row : List (Bool × Text)) : Prop where
  trimmed : ∀ cell ∈ row, trim cell.2 = cell.2
  escaped : ∀ cell ∈ row, (linkAfter? cell.2).isSome = true
  closed : ∀ cell ∈ row.dropLast, linkAfter? cell.2 = some false

/-- The cells of a row are scanned off it one by one. -/
theorem scan_row {row : List (Bool × Text)} (h : Sealed row) :
    (scan false none (trimEnd ((row.map written).flatMap (· ++ [' '])))).2.map trimmed =
      row.map fun cell => ⟨escape cell.2, 1, cell.1⟩ := by
  obtain ⟨htrimmed, hescaped, hclosed⟩ := h
  rcases List.eq_nil_or_concat row with rfl | ⟨row, cell, rfl⟩
  · show (scan false none []).2.map trimmed = []
    rw [scan, List.map_nil]
  rw [List.concat_eq_append] at *
  rw [List.dropLast_concat] at hclosed
  have hcell : cell ∈ row ++ [cell] := List.mem_append_right _ List.mem_cons_self
  obtain ⟨contents, hcontents, hlast⟩ :=
    scan_writtenLast (hescaped cell hcell) (htrimmed cell hcell)
  rw [trimEnd_written row (htrimmed cell hcell), scan_cells hclosed hlast rfl, List.map_append,
    List.map_append, List.map_map]
  congr 1
  · refine List.map_congr_left fun c hc => ?_
    have htrim := trim_escape (htrimmed c (List.mem_append_left _ hc))
    show (⟨trim (' ' :: escape c.2 ++ [' ']), 1, c.1⟩ : Cell Text) = _
    rw [trim_concat (by decide), trim_cons (by decide), htrim]
  · rw [List.map_singleton, Row.trimmed, hcontents]
    rfl

theorem line_cons (cell next : Bool × Text) (row : List (Bool × Text)) :
    line (cell :: next :: row) =
      written cell ++ ' ' :: line (next :: row) := by
  show written cell ++ [' '] ++ line (next :: row) = _
  rw [List.append_assoc]
  rfl

theorem exists_line_eq (cell : Bool × Text) (row : List (Bool × Text)) :
    ∃ rest, line (cell :: row) = written cell ++ rest := by
  cases row with
  | nil => exact ⟨[], (List.append_nil _).symm⟩
  | cons next row => exact ⟨_, line_cons cell next row⟩

theorem isBlankLine_of_trim_ne_nil {t : Text} (h : trim t ≠ []) : isBlankLine t = false := by
  refine List.all_eq_false.mpr ?_
  obtain ⟨c, u, hu⟩ := List.exists_cons_of_ne_nil h
  have hc : c ∈ trim t := hu ▸ List.mem_cons_self
  have hblank := isBlank_of_head?_trim (t := t) (c := c) (by rw [hu]; rfl)
  exact ⟨c, (trim_isInfix t).subset hc, by simp [hblank]⟩

theorem isBlankLine_eq_isEmpty_trim (t : Text) : isBlankLine t = (trim t).isEmpty := by
  by_cases h : trim t = []
  · rw [h]
    cases hblank : isBlankLine t with
    | true => rfl
    | false => exact absurd h (trim_ne_nil hblank)
  · rw [isBlankLine_of_trim_ne_nil h, Bool.eq_false_iff.mpr fun he => h (List.isEmpty_iff.mp he)]

theorem isEmpty_escape (t : Text) : (escape t).isEmpty = t.isEmpty := by
  cases t with
  | nil => rfl
  | cons c t => simpa using escape_ne_nil (List.cons_ne_nil c t)

/-- The cells of a row that are read: a last one without text is not, unless it is the only one. -/
def kept (row : List (Bool × Text)) : List (Bool × Text) :=
  if 1 < row.length && row.getLast?.any (·.2.isEmpty) then row.dropLast else row

theorem map_dropClosing {cells : Row Text} {row : List (Bool × Text)}
    (h : cells.map trimmed = row.map fun cell => ⟨escape cell.2, 1, cell.1⟩) :
    (dropClosing cells).map trimmed = (kept row).map fun cell => ⟨escape cell.2, 1, cell.1⟩ := by
  have hlength : cells.length = row.length := by simpa using congrArg List.length h
  have hlast : cells.getLast?.any (isBlankLine ·.contents) = row.getLast?.any (·.2.isEmpty) := by
    have hgetLast := congrArg List.getLast? h
    rw [List.getLast?_map, List.getLast?_map] at hgetLast
    cases hcell : cells.getLast? with
    | none =>
      rw [hcell] at hgetLast
      rw [Option.map_eq_none_iff.mp hgetLast.symm]
      rfl
    | some cell =>
      rw [hcell] at hgetLast
      obtain ⟨source, hsource, heq⟩ := Option.map_eq_some_iff.mp hgetLast.symm
      have hcontents : escape source.2 = trim cell.contents := congrArg Cell.contents heq
      rw [hsource, Option.any_some, Option.any_some, isBlankLine_eq_isEmpty_trim, ← hcontents,
        isEmpty_escape]
  unfold dropClosing kept
  rw [hlength, hlast]
  split
  · rw [List.map_dropLast, h, List.map_dropLast]
  · exact h

/-- A row is read as the cells it was written with. -/
theorem cells_trimEnd {row : List (Bool × Text)} (h : Sealed row) :
    (cells (trimEnd ((row.map written).flatMap (· ++ [' '])))).map trimmed =
      (kept row).map fun cell => ⟨escape cell.2, 1, cell.1⟩ :=
  map_dropClosing (scan_row h)

theorem linkFrom?_of_isCellChar {t : Text} (h : ∀ c ∈ t, isCellChar c = true)
    (prev : Option Char) : linkFrom? false false prev t = some false := by
  induction t generalizing prev with
  | nil => rfl
  | cons c t ih =>
    have hc := h c List.mem_cons_self
    have hslash := ne_of_isCellChar hc (d := '\\') (by decide)
    have hlink := linkOpen_of_ne (ne_of_isCellChar hc (d := '[') (by decide))
      (ne_of_isCellChar hc (d := ']') (by decide)) false t
    rw [linkFrom?.eq_4 _ _ _ _ _ (fun he _ => hslash he) (fun _ _ he _ => hslash he), hlink]
    exact ih (fun d hd => h d (List.mem_cons_of_mem c hd)) (some c)

theorem sealed_of_isWritten {row : List (Bool × Text)} (h : ∀ cell ∈ row, IsWritten cell.2) :
    Sealed row := by
  have hlink : ∀ cell ∈ row, linkAfter? cell.2 = some false :=
    fun cell hcell => linkFrom?_of_isCellChar (h cell hcell).chars _
  refine ⟨fun cell hcell => (h cell hcell).trimmed, fun cell hcell => ?_, fun cell hcell => ?_⟩
  · rw [hlink cell hcell]
    rfl
  · exact hlink cell (List.dropLast_subset _ hcell)

theorem kept_of_isWritten {row : List (Bool × Text)} (h : ∀ cell ∈ row, IsWritten cell.2) :
    kept row = row := by
  unfold kept
  refine if_neg fun hclosing => ?_
  obtain ⟨-, hany⟩ := Bool.and_eq_true_iff.mp hclosing
  cases hlast : row.getLast? with
  | none =>
    rw [hlast] at hany
    cases hany
  | some cell =>
    rw [hlast] at hany
    exact (h cell (List.mem_of_getLast? hlast)).ne_nil (List.isEmpty_iff.mp hany)

/-- Lines that each open a row are rows of their own. -/
theorem gather_rows {ls : List Text} (h : ∀ l ∈ ls, opensRow l = true) :
    gather ls = ls.map fun l => (cells l).map trimmed := by
  induction ls with
  | nil => rw [gather, List.map_nil]
  | cons l ls ih =>
    have hopens := fun m hm => h m (List.mem_cons_of_mem l hm)
    have htake : ls.takeWhile (!opensRow ·) = [] ∧ ls.dropWhile (!opensRow ·) = ls := by
      cases ls with
      | nil => exact ⟨rfl, rfl⟩
      | cons m ms =>
        have hm : ¬ (!opensRow m) = true := by simp [hopens m List.mem_cons_self]
        exact ⟨List.takeWhile_cons_of_neg hm, List.dropWhile_cons_of_neg hm⟩
    have hextend : ∀ row : Row Text, extendLast [] row = row := by
      intro row
      fun_induction extendLast [] row with
      | case1 => rfl
      | case2 cell => simp
      | case3 cell row _ ih => rw [ih]
    rw [gather, htake.1, htake.2, hextend, ofLine, if_pos (h l List.mem_cons_self), ih hopens]
    rfl

theorem exists_written_eq (cell : Bool × Text) :
    ∃ c t, written cell = c :: t ∧ (c = '|' ∨ c = '!') := by
  obtain ⟨header, t⟩ := cell
  cases header with
  | true => exact ⟨'!', _, rfl, .inr rfl⟩
  | false => exact ⟨'|', _, rfl, .inl rfl⟩

theorem mem_line {row : List (Bool × Text)} (h : ∀ cell ∈ row, IsWritten cell.2) {c : Char}
    (hc : c ∈ line row) : c = '\\' ∨ isCellChar c = true := by
  have hwritten : ∀ cell ∈ row, c ∈ written cell → c = '\\' ∨ isCellChar c = true := by
    intro cell hcell hm
    have hdelimiter : ∀ header : Bool, isCellChar (if header then '!' else '|') = true := by decide
    rcases List.mem_cons.mp hm with rfl | hm
    · exact .inr (hdelimiter cell.1)
    rcases List.mem_cons.mp hm with rfl | hm
    · exact .inr (by decide)
    · exact (mem_escapeAfter hm).imp_right ((h cell hcell).chars c)
  induction row with
  | nil => cases hc
  | cons cell row ih =>
    cases row with
    | nil => exact hwritten cell List.mem_cons_self hc
    | cons next row =>
      rw [line_cons] at hc
      rcases List.mem_append.mp hc with hc | hc
      · exact hwritten cell List.mem_cons_self hc
      rcases List.mem_cons.mp hc with rfl | hc
      · exact .inr (by decide)
      · exact ih (fun d hd => h d (List.mem_cons_of_mem cell hd)) hc
          fun d hd => hwritten d (List.mem_cons_of_mem cell hd)

theorem not_mem_line {row : List (Bool × Text)} (h : ∀ cell ∈ row, IsWritten cell.2) {c : Char}
    (hslash : c ≠ '\\') (hc : isCellChar c = false) : c ∉ line row := by
  intro hm
  rcases mem_line h hm with he | he
  · exact hslash he
  · rw [hc] at he
    cases he

theorem getLast?_line {row : List (Bool × Text)} (h : ∀ cell ∈ row, IsWritten cell.2)
    {c : Char} (hc : (line row).getLast? = some c) : isBlank c = false := by
  induction row with
  | nil => cases hc
  | cons cell row ih =>
    cases row with
    | nil =>
      obtain ⟨-, hne, htrimmed⟩ := h cell List.mem_cons_self
      exact isBlank_of_getLast?_written hne htrimmed hc
    | cons next row =>
      refine ih (fun d hd => h d (List.mem_cons_of_mem cell hd)) ?_
      have hne : line (next :: row) ≠ [] := by
        obtain ⟨rest, hrest⟩ := exists_line_eq next row
        rw [hrest]
        exact List.cons_ne_nil _ _
      rwa [line_cons, List.append_cons, getLast?_append_of_ne_nil _ hne] at hc

theorem trimEnd_row {row : List (Bool × Text)} (h : ∀ cell ∈ row, IsWritten cell.2) :
    trimEnd ((row.map written).flatMap (· ++ [' '])) = line row := by
  by_cases hnil : row.map written = []
  · rw [line, hnil]
    rfl
  · rw [flatMap_append_eq_join _ hnil, trimEnd_concat (by decide)]
    exact trimEnd_eq_self fun _ => getLast?_line h

/-- No cell of a row is dropped if each has a text. -/
theorem cells_row {row : List (Bool × Text)} (h : ∀ cell ∈ row, IsWritten cell.2) :
    (cells (line row)).map trimmed =
      row.map fun cell => ⟨escape cell.2, 1, cell.1⟩ := by
  rw [← trimEnd_row h, cells_trimEnd (sealed_of_isWritten h), kept_of_isWritten h]

theorem trim_line {row : List (Bool × Text)} (h : ∀ cell ∈ row, IsWritten cell.2) :
    trim (line row) = line row := by
  refine trim_eq_self (fun c hc => ?_) fun c => getLast?_line h
  cases row with
  | nil => cases hc
  | cons cell row =>
    obtain ⟨rest, hrest⟩ := exists_line_eq cell row
    obtain ⟨d, t, hwritten, hd⟩ := exists_written_eq cell
    rw [hrest, hwritten] at hc
    cases hc
    rcases hd with rfl | rfl
    · decide
    · decide

theorem opensRow_line (cell : Bool × Text) (row : List (Bool × Text)) :
    opensRow (line (cell :: row)) = true := by
  obtain ⟨rest, hrest⟩ := exists_line_eq cell row
  obtain ⟨d, t, hwritten, hd⟩ := exists_written_eq cell
  rw [hrest, hwritten]
  rcases hd with rfl | rfl
  · rfl
  · rfl

theorem isLine_line {row : List (Bool × Text)} (h : ∀ cell ∈ row, IsWritten cell.2) :
    IsLine (line row) := by
  refine ⟨not_mem_line h (by decide) (by decide), fun hlast => ?_⟩
  have hblank := getLast?_line h hlast
  cases hblank

/-- The body of a table is read row by row as it was written. -/
theorem read_lines {rows : List (List (Bool × Text))}
    (h : ∀ row ∈ rows, row ≠ [] ∧ ∀ cell ∈ row, IsWritten cell.2) :
    read ('\n' :: endedLines (rows.map line)) =
      rows.map fun row => row.map fun cell => ⟨escape cell.2, 1, cell.1⟩ := by
  have hlines : lines ('\n' :: endedLines (rows.map line)) = [] :: rows.map line := by
    have hall : ∀ l ∈ [] :: rows.map line, IsLine l := by
      intro l hl
      rcases List.mem_cons.mp hl with rfl | hl
      · exact ⟨by decide, by decide⟩
      · obtain ⟨row, hrow, rfl⟩ := List.mem_map.mp hl
        exact isLine_line (h row hrow).2
    exact lines_endedLines hall
  have hopens : ∀ l ∈ rows.map line, opensRow l = true := by
    intro l hl
    obtain ⟨row, hrow, rfl⟩ := List.mem_map.mp hl
    obtain ⟨cell, rest, rfl⟩ := List.exists_cons_of_ne_nil (h row hrow).1
    exact opensRow_line cell rest
  have htrim : (rows.map line).map trim = rows.map line := by
    rw [List.map_map]
    exact List.map_congr_left fun row hrow => trim_line (h row hrow).2
  have hfilter : (rows.map line).filter (!·.isEmpty) = rows.map line := by
    refine List.filter_eq_self.mpr fun l hl => ?_
    cases l with
    | nil => exact absurd (hopens [] hl) (by decide)
    | cons c l => rfl
  have hread : read ('\n' :: endedLines (rows.map line)) = gather (rows.map line) := by
    rw [read, hlines, List.map_cons, htrim]
    exact congrArg gather hfilter
  rw [hread, gather_rows hopens, List.map_map]
  exact List.map_congr_left fun row hrow => cells_row (h row hrow).2

/-- Escapes are dropped where a line is cut into tokens. -/
theorem tokens_escapeAfter {t : Text} (ht : ∀ c ∈ t, isCellChar c = true) (inLink : Bool)
    (before prev : Option Char) :
    tokens prev false (escapeAfter inLink before t) = t.map Token.char := by
  induction t generalizing inLink before prev with
  | nil => exact tokens_nil prev false
  | cons c t ih =>
    have hc := ht c List.mem_cons_self
    have htail := fun d hd => ht d (List.mem_cons_of_mem c hd)
    simp only [escapeAfter]
    split
    · rw [tokens_escaped, ih htail]
      rfl
    · have hcolon : ':' ∉ escapeAfter (linkOpen inLink (c :: t)) (some c) t := by
        intro hm
        rcases mem_escapeAfter hm with he | hm
        · cases he
        · exact ne_of_isCellChar (htail ':' hm) (d := ':') (by decide) rfl
      have hcalm := (calm_of_not_mem hcolon).cons (ne_of_isCellChar hc (by decide))
      rw [tokens_of_standsAlone (standsAlone_of_isCellChar hc) hcalm, ih htail]
      rfl

theorem startsBlock_escape {t : Text} (ht : ∀ c ∈ t, isCellChar c = true) :
    Opening.startsBlock (escape t) = false := by
  have hslash : '\\' ∉ Opening.signs := by decide
  have hsigns : Opening.signs.all (!isCellChar ·) = true := by decide
  refine Opening.startsBlock_of_signs fun c hc hsign => ?_
  rcases mem_escapeAfter hc with rfl | hc
  · exact hslash hsign
  · have hnot := List.all_eq_true.mp hsigns c hsign
    rw [ht c hc] at hnot
    cases hnot

/-- The document in a cell is one line of the text that was escaped. -/
theorem ofText_escape {t : Text} (h : IsWritten t) :
    Block.ofText (escape t) = [.paragraph [[.text t]]] := by
  obtain ⟨hchars, hne, htrimmed⟩ := h
  have hbreak : '\n' ∉ escape t := by
    intro hm
    rcases mem_escapeAfter hm with he | hm
    · cases he
    · exact ne_of_isCellChar (hchars _ hm) (d := '\n') (by decide) rfl
  have hlines : lines (escape t) = [escape t] := by
    rw [lines, split_of_not_mem hbreak]
    exact if_neg (by simpa using escape_ne_nil hne)
  have hblank : isBlankLine (escape t) = false := by
    refine isBlankLine_of_trim_ne_nil ?_
    rw [trim_escape htrimmed]
    exact escape_ne_nil hne
  have hmore : ∀ l ∈ ([] : List Text), Chunk.inParagraph l = true := by simp
  have hread := Chunk.read_paragraph (startsBlock_escape hchars) hmore (Parted.nil.stops rfl)
  rw [List.append_nil] at hread
  have htext : Span.ofLine (escape t) = [.text t] := by
    rw [Span.ofLine_eq, escape, tokens_escapeAfter hchars, Span.gather_chars hne]
  rw [Chunk.ofText_of_read hlines hblank hread, List.map_singleton, trim_escape htrimmed, htext]
  rfl

end MarkupBridge.Wiki.Row
