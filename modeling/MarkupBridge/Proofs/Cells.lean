import MarkupBridge.Proofs.Rows

namespace MarkupBridge.Wiki.Row
open Text

/-- Texts that stay in their cell. An exclamation mark stands inside a word, a backslash takes the
character after it with it, and between the brackets of a link any mark may stand. `prev` is the
character of the text that comes before. -/
inductive IsContents : Option Char → Text → Prop
  | nil {prev : Option Char} : IsContents prev []
  | plain {prev : Option Char} {c : Char} {t : Text} : c ∉ ['|', '\\', '[', ']'] →
    (c = '!' → prev.any (!isBlank ·) = true) → IsContents (some c) t → IsContents prev (c :: t)
  | escape {prev : Option Char} {c : Char} {t : Text} : IsContents (some c) t →
    IsContents prev ('\\' :: c :: t)
  | link {prev : Option Char} {inside t : Text} : '\\' ∉ inside → ¬ [']', ']'] <:+: inside →
    IsContents (some ']') t → IsContents prev ('[' :: '[' :: (inside ++ ']' :: ']' :: t))

theorem linkOpen_of_open {c : Char} {t : Text} (h : c = ']' → t.head? ≠ some ']') :
    linkOpen true (c :: t) = true := by
  have hclose : startsWith [']', ']'] (c :: t) = false := by
    rw [startsWith_pair]
    by_cases hc : c = ']'
    · simp [h hc]
    · simp [Ne.symm hc]
  unfold linkOpen
  rw [hclose]
  cases startsWith ['[', '['] (c :: t) <;> rfl

theorem isDelimiter_of_ne {c : Char} (hbar : c ≠ '|') (hmark : c ≠ '!') (prev : Option Char) :
    isDelimiter prev c = false := by
  simp [isDelimiter, hbar, hmark]

/-- A character that opens no cell where it stands is passed over. -/
theorem scan_unmarked {prev : Option Char} {c : Char} (hslash : c ≠ '\\')
    (hc : isDelimiter prev c = false) (inLink : Bool) (t : Text) : scan inLink prev (c :: t) =
      (c :: (scan (linkOpen inLink (c :: t)) (some c) t).1,
        (scan (linkOpen inLink (c :: t)) (some c) t).2) :=
  scan_plain hslash (by rw [hc, Bool.and_false]) t

theorem scan_opening (prev : Option Char) (t : Text) :
    scan false prev ('[' :: '[' :: t) =
      ('[' :: '[' :: (scan true (some '[') t).1, (scan true (some '[') t).2) := by
  have hopened : linkOpen false ('[' :: '[' :: t) = true := rfl
  have hopen : linkOpen true ('[' :: t) = true := linkOpen_of_open fun h => by cases h
  rw [scan_unmarked (by decide) (isDelimiter_of_ne (by decide) (by decide) _), hopened,
    scan_plain (by decide) rfl, hopen]

/-- Two brackets close a link, whether or not the one before them has closed it already. -/
theorem scan_closing (inLink : Bool) (prev : Option Char) (t : Text) :
    scan inLink prev (']' :: ']' :: t) =
      (']' :: ']' :: (scan false (some ']') t).1, (scan false (some ']') t).2) := by
  have hnone : ∀ prev, isDelimiter prev ']' = false := isDelimiter_of_ne (by decide) (by decide)
  have hclosed : linkOpen inLink (']' :: ']' :: t) = false := rfl
  have hclose : linkOpen false (']' :: t) = false := by
    unfold linkOpen
    rw [startsWith_pair]
    split <;> simp_all
  rw [scan_unmarked (by decide) (hnone _), hclosed, scan_unmarked (by decide) (hnone _), hclose]

/-- Inside a link no mark opens a cell. -/
theorem scan_inside {inside : Text} (hslash : '\\' ∉ inside) (hclose : ¬ [']', ']'] <:+: inside)
    (prev : Option Char) (t : Text) :
    scan true prev (inside ++ ']' :: ']' :: t) =
      (inside ++ ']' :: ']' :: (scan false (some ']') t).1, (scan false (some ']') t).2) := by
  induction inside generalizing prev with
  | nil => exact scan_closing true prev t
  | cons c inside ih =>
    have hc : c ≠ '\\' := Ne.symm (List.ne_of_not_mem_cons hslash)
    rw [List.cons_append, scan_plain hc rfl]
    cases inside with
    | nil =>
      -- A bracket at the end closes the link one place early, but only brackets follow.
      rw [List.nil_append, scan_closing]
      rfl
    | cons d inside =>
      have hopen : linkOpen true (c :: (d :: inside ++ ']' :: ']' :: t)) = true := by
        refine linkOpen_of_open fun he hd => hclose ?_
        obtain rfl : d = ']' := Option.some.inj hd
        rw [he]
        exact ⟨[], inside, rfl⟩
      rw [hopen, ih (List.not_mem_of_not_mem_cons hslash) fun h =>
        hclose (h.trans (List.suffix_cons c _).isInfix)]
      rfl

/-- A text that stays in its cell is scanned as it is. The scanner knows more of what comes before
than the text does. -/
theorem IsContents.scan_append {prev : Option Char} {t : Text} (h : IsContents prev t)
    {before : Option Char} (hbefore : ∀ c ∈ prev, before = some c) {rest : Text}
    (hrest : Apart rest) : scan false before (t ++ rest) =
      (t ++ (scan false none rest).1, (scan false none rest).2) := by
  induction h generalizing before with
  | nil => exact hrest.scan_eq ..
  | @plain prev c t hc hword _ ih =>
    simp only [List.mem_cons, List.not_mem_nil, not_or] at hc
    obtain ⟨hbar, hslash, hopen, hclose, -⟩ := hc
    have hdelimiter : isDelimiter before c = false := by
      by_cases hmark : c = '!'
      · have hvisible := hword hmark
        cases prev with
        | none => cases hvisible
        | some d =>
          have hd : isBlank d = false := by simpa using hvisible
          simp [isDelimiter, hbar, hbefore d rfl, hd]
      · exact isDelimiter_of_ne hbar hmark before
    rw [List.cons_append, scan_unmarked hslash hdelimiter, linkOpen_of_ne hopen hclose,
      ih fun d hd => hd]
    rfl
  | escape _ ih =>
    rw [List.cons_append, List.cons_append, scan_escaped, ih fun d hd => hd]
    rfl
  | @link prev inside t hslash hclose _ ih =>
    rw [List.cons_append, List.cons_append, List.append_assoc, List.cons_append, List.cons_append,
      scan_opening, scan_inside hslash hclose, ih fun d hd => hd]
    simp only [List.append_assoc, List.cons_append]

/-- A cell put together: a mark for each of its columns, and its text between blanks. -/
def spelled (cell : Cell Text) : Text :=
  List.replicate cell.colspan (mark cell.header) ++ ' ' :: cell.contents ++ [' ']

/-- A cell over one column or more, with a text that is trimmed and stays in it. -/
structure IsSpelled (cell : Cell Text) : Prop where
  colspan_pos : 1 ≤ cell.colspan
  ne_nil : cell.contents ≠ []
  trimmed : trim cell.contents = cell.contents
  stays : IsContents none cell.contents

/-- A cell as it is scanned, with the blanks around its text. -/
def padded (cell : Cell Text) : Cell Text := { cell with contents := ' ' :: cell.contents ++ [' '] }

theorem scan_spelled {prev : Option Char} (hprev : prev.all isBlank = true) {cell : Cell Text}
    (h : IsSpelled cell) {rest : Text} {cells : Row Text}
    (hrest : ∀ prev : Option Char, prev.all isBlank = true → scan false prev rest = ([], cells)) :
    scan false prev (spelled cell ++ rest) = ([], padded cell :: cells) := by
  obtain ⟨contents, colspan, header⟩ := cell
  obtain ⟨more, rfl⟩ : ∃ more, colspan = more + 1 := Nat.exists_eq_add_of_le' h.colspan_pos
  have hcell : spelled ⟨contents, more + 1, header⟩ ++ rest =
      mark header :: (List.replicate more (mark header) ++ ' ' :: (contents ++ ' ' :: rest)) := by
    simp [spelled, List.replicate_succ]
  have hcontents : scan false (some ' ') (contents ++ ' ' :: rest) =
      (contents ++ (scan false none (' ' :: rest)).1, (scan false none (' ' :: rest)).2) :=
    h.stays.scan_append (by simp) (.blank rest)
  rw [hcell, scan_run hprev header more (.blank _), scan_blank, hcontents, scan_blank,
    hrest (some ' ') rfl]
  rfl

theorem scan_spelledRow {row : Row Text} (h : ∀ cell ∈ row, IsSpelled cell) {prev : Option Char}
    (hprev : prev.all isBlank = true) :
    scan false prev (row.flatMap spelled) = ([], row.map padded) := by
  induction row generalizing prev with
  | nil => rw [List.flatMap_nil, scan, List.map_nil]
  | cons cell row ih =>
    rw [List.flatMap_cons]
    exact scan_spelled hprev (h cell List.mem_cons_self) fun _ hblank =>
      ih (fun c hc => h c (List.mem_cons_of_mem cell hc)) hblank

theorem IsSpelled.trim_padded {cell : Cell Text} (h : IsSpelled cell) :
    trim (padded cell).contents = cell.contents := by
  show trim (' ' :: cell.contents ++ [' ']) = _
  rw [trim_concat (by decide), trim_cons (by decide), h.trimmed]

/-- A row is read as the cells it was put together from, each over its columns, a header or not as
its mark says, with its text. -/
theorem cells_spelled {row : Row Text} (h : ∀ cell ∈ row, IsSpelled cell) :
    (cells (row.flatMap spelled)).map trimmed = row := by
  have hvisible : (row.map padded).getLast?.any (isBlankLine ·.contents) = false := by
    rw [List.getLast?_map]
    cases hlast : row.getLast? with
    | none => rfl
    | some cell =>
      have hcell := h cell (List.mem_of_getLast? hlast)
      refine isBlankLine_of_trim_ne_nil ?_
      rw [hcell.trim_padded]
      exact hcell.ne_nil
  rw [cells, scan_spelledRow h rfl, dropClosing, hvisible, Bool.and_false, if_neg (by simp),
    List.map_map]
  refine (List.map_congr_left fun cell hcell => ?_).trans (List.map_id row)
  show ({ padded cell with contents := trim (padded cell).contents } : Cell Text) = cell
  rw [(h cell hcell).trim_padded]
  rfl

/-- A mark behind an escaped bar, marks and a bracket in a link, and a mark right behind that link
before an escaped one. -/
theorem cells_spelled_marks :
    let row : Row Text := [⟨"\\|!a".toList, 2, true⟩, ⟨"[[b]|!c]]!\\!".toList, 1, false⟩]
    (∀ cell ∈ row, IsSpelled cell) ∧
      row.flatMap spelled = "!! \\|!a | [[b]|!c]]!\\! ".toList ∧
      (cells (row.flatMap spelled)).map trimmed = row := by
  intro row
  have hescaped : IsContents none "\\|!a".toList :=
    .escape (.plain (by decide) (by decide) (.plain (by decide) (by decide) .nil))
  have hlink : IsContents none "[[b]|!c]]!\\!".toList :=
    @IsContents.link none "b]|!c".toList "!\\!".toList (by decide) (by decide)
      (.plain (by decide) (by decide) (.escape .nil))
  have hrow : ∀ cell ∈ row, IsSpelled cell := by
    intro cell hcell
    rcases List.mem_cons.mp hcell with rfl | hcell
    · exact ⟨by decide, by decide, by decide, hescaped⟩
    · obtain rfl := List.mem_singleton.mp hcell
      exact ⟨by decide, by decide, by decide, hlink⟩
  exact ⟨hrow, by decide, cells_spelled hrow⟩

end MarkupBridge.Wiki.Row
