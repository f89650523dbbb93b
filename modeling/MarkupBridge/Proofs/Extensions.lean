import MarkupBridge.Grammar
import MarkupBridge.Proofs.LineForm

namespace MarkupBridge

namespace Text

theorem join_append (mark : Text) (ts : List Text) (t : Text) (us : List Text) :
    join mark (ts ++ t :: us) = ts.flatMap (· ++ mark) ++ (t ++ us.flatMap (mark ++ ·)) := by
  induction ts with
  | nil => exact join_cons mark t us
  | cons u ts ih =>
    obtain ⟨v, vs, hrest⟩ := List.exists_cons_of_ne_nil (List.append_ne_nil_of_right_ne_nil ts
      (List.cons_ne_nil t us))
    rw [hrest] at ih
    rw [List.cons_append, hrest]
    show u ++ mark ++ join mark (v :: vs) = _
    rw [ih, List.flatMap_cons, List.append_assoc _ _ (t ++ _)]

theorem cutLast?_append {mark : Char} {e : Text} (h : mark ∉ e) (s : Text) :
    cutLast? mark (s ++ mark :: e) = some (s, e) := by
  have hreverse : (s ++ mark :: e).reverse = e.reverse ++ mark :: s.reverse := by simp
  rw [cutLast?, hreverse, cutChar?_append (fun hm => h (List.mem_reverse.mp hm))]
  simp

theorem eq_of_cutLast? {mark : Char} {t s e : Text} (h : cutLast? mark t = some (s, e)) :
    t = s ++ mark :: e ∧ mark ∉ e := by
  obtain ⟨⟨b, a⟩, hcut, he⟩ := Option.map_eq_some_iff.mp h
  cases he
  constructor
  · rw [← List.reverse_reverse t, eq_of_cutChar? hcut]
    simp
  · exact fun hm => not_mem_of_cutChar? hcut (List.mem_reverse.mp hm)

/-- The last element that a run from the end leaves, with the run after it. -/
theorem eq_append_of_dropWhile_reverse {p : α → Bool} {l before : List α} {a : α}
    (h : l.reverse.dropWhile p = a :: before) :
    ∃ run, l = before.reverse ++ a :: run ∧ p a = false ∧ ∀ b ∈ run, p b = true := by
  have hsplit := List.takeWhile_append_dropWhile (p := p) (l := l.reverse)
  have hhead := List.head?_dropWhile_not p l.reverse
  rw [h] at hsplit hhead
  refine ⟨(l.reverse.takeWhile p).reverse, ?_, hhead, fun b hb => ?_⟩
  · calc l = l.reverse.reverse := l.reverse_reverse.symm
      _ = (l.reverse.takeWhile p ++ a :: before).reverse := by rw [hsplit]
      _ = _ := by simp
  · exact List.all_eq_true.mp List.all_takeWhile b (List.mem_reverse.mp hb)

end Text

namespace Path
open Text

theorem isName_eq_false {s : Text} : isName s = false ↔ s = [] ∨ s = ['.'] := by
  unfold isName
  cases s with
  | nil => simp
  | cons c s => simp

theorem stem_append {s e : Text} (hs : s ≠ []) (he : '.' ∉ e) :
    stem (s ++ '.' :: e) = (s, some e) := by
  rw [stem, cutLast?_append he]
  simp [hs]

/-- A name without an extension is its own stem; any other is its stem, a dot and its extension. -/
theorem stem_cases (name : Text) : stem name = (name, none) ∨
    ∃ s e, name = s ++ '.' :: e ∧ s ≠ [] ∧ '.' ∉ e ∧ stem name = (s, some e) := by
  unfold stem
  cases hcut : cutLast? '.' name with
  | none => exact .inl rfl
  | some p =>
    obtain ⟨s, e⟩ := p
    obtain ⟨heq, he⟩ := eq_of_cutLast? hcut
    cases s with
    | nil => exact .inl rfl
    | cons c s => exact .inr ⟨c :: s, e, heq, List.cons_ne_nil c s, he, rfl⟩

theorem isName_dotted {s : Text} (hs : s ≠ []) (e : Text) : isName (s ++ '.' :: e) = true := by
  cases s with
  | nil => exact absurd rfl hs
  | cons c s => simp [isName]

theorem dotted_eq_dots {s e : Text} (hs : s ≠ []) :
    s ++ '.' :: e = ['.', '.'] ↔ s = ['.'] ∧ e = [] := by
  cases s with
  | nil => exact absurd rfl hs
  | cons c s => cases s <;> simp

theorem stem_isPrefix (name : Text) : (stem name).1 <+: name := by
  rcases stem_cases name with hname | ⟨s, e, rfl, -, -, hname⟩
  · exact ⟨[], by rw [hname, List.append_nil]⟩
  · exact ⟨'.' :: e, by rw [hname]⟩

theorem withoutExtension_eq_self {path : Text} (h : extension? path = none) :
    withoutExtension path = path := by
  rw [withoutExtension, h]
  exact List.take_length

/-- Segments with a slash after each. -/
def folder (before : List Text) : Text := before.flatMap (· ++ ['/'])

/-- Segments with a slash before each. -/
def trailing (idle : List Text) : Text := idle.flatMap (['/'] ++ ·)

theorem trailing_eq_nil {idle : List Text} : trailing idle = [] ↔ idle = [] := by
  cases idle <;> simp [trailing]

/-- A path with a name between slashes, and nothing after it but segments that name nothing. -/
structure Names (path : Text) (before : List Text) (name : Text) (idle : List Text) : Prop where
  path_eq : path = folder before ++ (name ++ trailing idle)
  unbroken : ∀ s ∈ before, '/' ∉ s
  name_unbroken : '/' ∉ name
  isName : isName name = true
  idle : ∀ s ∈ idle, Path.isName s = false

theorem split_names {before idle : List Text} {name : Text} (hbefore : ∀ s ∈ before, '/' ∉ s)
    (hname : '/' ∉ name) (hidle : ∀ s ∈ idle, isName s = false) :
    split '/' (folder before ++ (name ++ trailing idle)) = before ++ name :: idle := by
  unfold folder trailing
  induction before with
  | nil =>
    rw [List.flatMap_nil, List.nil_append, List.nil_append]
    induction idle generalizing name with
    | nil => rw [List.flatMap_nil, List.append_nil, split_of_not_mem hname]
    | cons s idle ih =>
      have hs : '/' ∉ s := by
        rcases isName_eq_false.mp (hidle s List.mem_cons_self) with rfl | rfl <;> decide
      rw [List.flatMap_cons, List.append_assoc, List.singleton_append, split_append hname,
        ih hs fun u hu => hidle u (List.mem_cons_of_mem s hu)]
  | cons s before ih =>
    rw [List.flatMap_cons, List.append_assoc, List.append_assoc, List.singleton_append,
      split_append (hbefore s List.mem_cons_self),
      ih fun u hu => hbefore u (List.mem_cons_of_mem s hu), List.cons_append]

/-- Idle segments cut anywhere are idle segments. -/
theorem exists_take_trailing {idle : List Text} (h : ∀ s ∈ idle, isName s = false) (n : Nat) :
    ∃ left, (trailing idle).take n = trailing left ∧ ∀ s ∈ left, isName s = false := by
  unfold trailing
  induction idle generalizing n with
  | nil => exact ⟨[], by simp, by simp⟩
  | cons s idle ih =>
    cases n with
    | zero => exact ⟨[], by simp, by simp⟩
    | succ n =>
      obtain ⟨left, htake, hleft⟩ := ih (fun u hu => h u (List.mem_cons_of_mem s hu)) (n - s.length)
      have hs : isName (s.take n) = false := by
        rcases isName_eq_false.mp (h s List.mem_cons_self) with rfl | rfl
        · rw [List.take_nil]; rfl
        · cases n with
          | zero => rfl
          | succ n => rw [List.take_succ_cons, List.take_nil]; rfl
      refine ⟨s.take n :: left, ?_, List.forall_mem_cons.mpr ⟨hs, hleft⟩⟩
      rw [List.flatMap_cons, List.flatMap_cons, ← htake, List.append_assoc, List.singleton_append,
        List.take_succ_cons, List.take_append]
      rfl

theorem folder_append_eq_join (before : List Text) (name : Text) :
    folder before ++ name = join ['/'] (before ++ [name]) := by
  rw [join_append, List.flatMap_nil, List.append_nil, folder]

/-- Where a name is found, it stands before nothing but idle segments. -/
theorem exists_names {path : Text} {before : List Text} {name : Text}
    (h : locate? path = some (before, name)) :
    name ≠ ['.', '.'] ∧ ∃ idle, Names path before name idle := by
  unfold locate? at h
  cases hdrop : (split '/' path).reverse.dropWhile (!isName ·) with
  | nil => simp [hdrop] at h
  | cons first others =>
    simp only [hdrop, Option.ite_none_left_eq_some, Option.some.injEq, Prod.mk.injEq] at h
    obtain ⟨hdots, rfl, rfl⟩ := h
    obtain ⟨idle, hsegments, hname, hidle⟩ := eq_append_of_dropWhile_reverse hdrop
    have hunbroken : ∀ s ∈ others.reverse ++ first :: idle, '/' ∉ s := fun s hs =>
      not_mem_of_mem_split (hsegments ▸ hs)
    refine ⟨hdots, idle, ?_, ?_, ?_, by simpa using hname, fun s hs => by simpa using hidle s hs⟩
    · rw [← join_split '/' path, hsegments, join_append]
      rfl
    · exact fun s hs => hunbroken s (List.mem_append_left _ hs)
    · exact hunbroken first (List.mem_append_right _ List.mem_cons_self)

namespace Names

variable {path : Text} {before : List Text} {name s e : Text} {idle : List Text}

/-- The name is found, unless it is two dots. -/
theorem locate?_eq (h : Names path before name idle) :
    locate? path = if name = ['.', '.'] then none else some (before, name) := by
  have hidle : ∀ s ∈ idle.reverse, (!Path.isName s) = true := fun s hs => by
    simp [h.idle s (List.mem_reverse.mp hs)]
  have hsegments : (split '/' path).reverse = idle.reverse ++ name :: before.reverse := by
    rw [h.path_eq, split_names h.unbroken h.name_unbroken h.idle]
    simp
  have hdrop : (split '/' path).reverse.dropWhile (!Path.isName ·) = name :: before.reverse := by
    rw [hsegments, List.dropWhile_append_of_pos hidle,
      List.dropWhile_cons_of_neg (by simp [h.isName])]
  rw [locate?, hdrop]
  simp only [List.reverse_reverse]

theorem locate?_of_ne (h : Names path before name idle) (hdots : name ≠ ['.', '.']) :
    locate? path = some (before, name) := by
  rw [h.locate?_eq, if_neg hdots]

theorem stem_ne_nil (h : Names path before name idle) : (stem name).1 ≠ [] := by
  rcases stem_cases name with hname | ⟨s, e, rfl, hs, -, hname⟩
  · rw [hname]
    rintro rfl
    exact absurd h.isName (by decide)
  · rw [hname]
    exact hs

/-- Without its extension a path has the same folder and stem: the extension is cut off the end of
the path, so idle segments go first, and as much of the extension stays as they are long. -/
theorem withoutExtension (h : Names path before (s ++ '.' :: e) idle)
    (hdots : s ++ '.' :: e ≠ ['.', '.']) (hs : s ≠ []) (he : '.' ∉ e) :
    ∃ e' left, Names (withoutExtension path) before (s ++ '.' :: e') left ∧ '.' ∉ e' ∧
      (e' = [] ↔ e = [] ∨ idle = []) := by
  have hextension : extension? path = some e := by
    rw [extension?, h.locate?_of_ne hdots]
    simp [stem_append hs he]
  have hpath : path = folder before ++ (s ++ ['.']) ++ (e ++ trailing idle) := by
    rw [h.path_eq]
    simp
  have hlength : path.length - e.length =
      (folder before ++ (s ++ ['.'])).length + (trailing idle).length := by
    rw [hpath]
    simp only [List.length_append]
    omega
  have hcut : Path.withoutExtension path =
      folder before ++ (s ++ ['.']) ++ (e ++ trailing idle).take (trailing idle).length := by
    rw [Path.withoutExtension, hextension, Option.getD_some, hlength, hpath,
      List.take_length_add_append]
  obtain ⟨left, hleft, hidle⟩ := exists_take_trailing h.idle ((trailing idle).length - e.length)
  have hunbroken := h.name_unbroken
  refine ⟨e.take (trailing idle).length, left, ⟨?_, h.unbroken, ?_, ?_, hidle⟩, ?_, ?_⟩
  · rw [hcut, List.take_append, hleft]
    simp
  · intro hm
    refine hunbroken ?_
    rcases List.mem_append.mp hm with hm | hm
    · exact List.mem_append_left _ hm
    · refine List.mem_append_right _ ?_
      exact ((List.cons_prefix_cons.mpr ⟨rfl, List.take_prefix _ e⟩).subset hm)
  · exact isName_dotted hs _
  · exact fun hm => he (List.mem_of_mem_take hm)
  · rw [List.take_eq_nil_iff, List.length_eq_zero_iff, trailing_eq_nil, or_comm]

/-- The path with another extension, if the name without its own still names a file. -/
theorem replaceExtension_eq (h : Names path before name idle) (hdots : name ≠ ['.', '.'])
    (hstem : (stem name).1 ≠ ['.'] ∨ idle ≠ []) (ext : Text) :
    replaceExtension path ext = folder before ++ ((stem name).1 ++ '.' :: ext) := by
  rw [folder_append_eq_join]
  rcases stem_cases name with hname | ⟨s, e, rfl, hs, he, hname⟩
  · have hnone : extension? path = none := by
      rw [extension?, h.locate?_of_ne hdots]
      simp [hname]
    simp only [replaceExtension, withoutExtension_eq_self hnone, h.locate?_of_ne hdots]
  · obtain ⟨e', left, hcut, he', hnil⟩ := h.withoutExtension hdots hs he
    have hcutdots : s ++ '.' :: e' ≠ ['.', '.'] := by
      intro heq
      obtain ⟨rfl, rfl⟩ := (dotted_eq_dots hs).mp heq
      rcases hnil.mp rfl with rfl | hidle
      · exact hdots rfl
      · rw [hname] at hstem
        exact hstem.elim (fun hne => hne rfl) fun hne => hne hidle
    simp only [replaceExtension, hcut.locate?_of_ne hcutdots, stem_append hs he', hname]

/-- A name of two dots and more, last in its path, is two dots without its extension. -/
theorem locate?_replaceExtension_eq_none (h : Names path before name [])
    (hdots : name ≠ ['.', '.']) (hstem : (stem name).1 = ['.']) (ext : Text) :
    locate? (replaceExtension path ext) = none := by
  rcases stem_cases name with hname | ⟨s, e, rfl, hs, he, hname⟩
  · rw [hname] at hstem
    rw [show name = ['.'] from hstem] at h
    exact absurd h.isName (by decide)
  · rw [hname] at hstem
    obtain rfl : s = ['.'] := hstem
    obtain ⟨e', left, hcut, he', hnil⟩ := h.withoutExtension hdots hs he
    obtain rfl : e' = [] := hnil.mpr (.inr rfl)
    have hnone : locate? (Path.withoutExtension path) = none := by
      rw [hcut.locate?_eq]
      rfl
    simp only [replaceExtension, hnone]

end Names

end Path

namespace Grammar
open Text MarkupBridge.Path

variable {path : Text} {before : List Text} {name : Text} {idle : List Text}

theorem extension_plain (g : Grammar) :
    '.' ∉ g.extension ∧ '/' ∉ g.extension ∧ g.extension ≠ [] := by
  cases g <;> decide

theorem stem_renamed {s : Text} (hs : s ≠ []) (g : Grammar) :
    stem (s ++ g.suffix) = (s, some g.extension) :=
  stem_append hs g.extension_plain.1

theorem renamed_ne_dots {s : Text} (hs : s ≠ []) (g : Grammar) : s ++ g.suffix ≠ ['.', '.'] :=
  fun heq => g.extension_plain.2.2 ((dotted_eq_dots hs).mp heq).2

/-- The stem with another extension is a name in the same folder, and the last one of its path. -/
theorem names_renamed (h : Names path before name idle) (g : Grammar) :
    Names (folder before ++ ((stem name).1 ++ g.suffix)) before ((stem name).1 ++ g.suffix) [] := by
  refine ⟨?_, h.unbroken, ?_, isName_dotted h.stem_ne_nil _, by simp⟩
  · rw [trailing_eq_nil.mpr rfl, List.append_nil]
  · intro hm
    rcases List.mem_append.mp hm with hm | hm
    · exact h.name_unbroken ((stem_isPrefix name).subset hm)
    · exact g.extension_plain.2.1 (List.mem_of_ne_of_mem (by decide) hm)

theorem rename_eq (h : Names path before name idle) (hdots : name ≠ ['.', '.'])
    (hstem : (stem name).1 ≠ ['.'] ∨ idle ≠ []) (g : Grammar) :
    g.rename path = folder before ++ ((stem name).1 ++ g.suffix) :=
  h.replaceExtension_eq hdots hstem g.extension

theorem ofPath_renamed (h : Names path before name idle) (g : Grammar) :
    ofPath (folder before ++ ((stem name).1 ++ g.suffix)) = g := by
  have hextension : extension? (folder before ++ ((stem name).1 ++ g.suffix)) =
      some g.extension := by
    rw [extension?, (names_renamed h g).locate?_of_ne (renamed_ne_dots h.stem_ne_nil g)]
    simp [stem_renamed h.stem_ne_nil]
  rw [ofPath, hextension]
  cases g <;> decide

/-- A path without a name is left as it is. -/
theorem rename_of_locate?_eq_none (h : locate? path = none) (g : Grammar) :
    g.rename path = path := by
  have hnone : extension? path = none := by
    rw [extension?, h]
    rfl
  simp only [rename, replaceExtension, withoutExtension_eq_self hnone, h]

/-- A file is of the grammar that it was last renamed to, whatever its folder and whatever follows
its name, unless its stem is a lone dot. A path without a name is left as it is. -/
theorem rename_settles_iff (path : Text) (g h : Grammar) :
    (∀ (before : List Text) (name : Text), locate? path = some (before, name) →
      ((ofPath (g.rename path) = g ∧ (locate? (g.rename path)).isSome = true ∧
        h.rename (g.rename path) = h.rename path) ↔ (stem name).1 ≠ ['.'])) ∧
    (locate? path = none → g.rename path = path) := by
  refine ⟨fun before name hlocate => ?_, fun hnone => rename_of_locate?_eq_none hnone g⟩
  obtain ⟨hdots, idle, hnames⟩ := exists_names hlocate
  have hs := hnames.stem_ne_nil
  have hrenamed := names_renamed hnames g
  have hnext := renamed_ne_dots hs g
  have hnextstem : (stem ((stem name).1 ++ g.suffix)).1 = (stem name).1 := by
    rw [stem_renamed hs]
  constructor
  · rintro ⟨-, hsome, hlast⟩ hdot
    by_cases hidle : idle = []
    · -- The name is all there is to cut the extension from, and two dots are left.
      subst hidle
      rw [rename, hnames.locate?_replaceExtension_eq_none hdots hdot] at hsome
      cases hsome
    · -- The first renaming spares the name, and then the second one does not.
      have hnone : locate? (h.rename (folder before ++ ((stem name).1 ++ g.suffix))) = none :=
        hrenamed.locate?_replaceExtension_eq_none hnext (hnextstem.trans hdot) h.extension
      rw [rename_eq hnames hdots (.inr hidle), rename_eq hnames hdots (.inr hidle)] at hlast
      rw [hlast, (names_renamed hnames h).locate?_of_ne (renamed_ne_dots hs h)] at hnone
      cases hnone
  · intro hstem
    rw [rename_eq hnames hdots (.inl hstem), rename_eq hnames hdots (.inl hstem),
      rename_eq hrenamed hnext (.inl (hnextstem.symm ▸ hstem)), hnextstem]
    refine ⟨ofPath_renamed hnames g, ?_, rfl⟩
    rw [hrenamed.locate?_of_ne hnext]
    rfl

/-- A hidden file with two more dots, in front of slashes and a dot. -/
theorem rename_settles_iff_hidden :
    let path : Text := "日本//.a..md/./".toList
    locate? path = some (["日本".toList, []], ".a..md".toList) ∧
      (stem ".a..md".toList).1 ≠ ['.'] ∧
      ofPath (mycomarkup.rename path) = mycomarkup ∧
      (locate? (mycomarkup.rename path)).isSome = true ∧
      markdown.rename (mycomarkup.rename path) = markdown.rename path ∧
      locate? "a/../.".toList = none ∧ markdown.rename "a/../.".toList = "a/../.".toList := by
  intro path
  have hlocate : locate? path = some (["日本".toList, []], ".a..md".toList) := by decide
  have hstem : (stem ".a..md".toList).1 ≠ ['.'] := by decide
  have hnone : locate? "a/../.".toList = none := by decide
  obtain ⟨hof, hsome, hlast⟩ :=
    ((rename_settles_iff path mycomarkup markdown).1 _ _ hlocate).mpr hstem
  exact ⟨hlocate, hstem, hof, hsome, hlast, hnone,
    (rename_settles_iff _ markdown mycomarkup).2 hnone⟩

/-- Two dots and a letter lose the letter, and with it the name. -/
theorem rename_dots_lost :
    ¬ ∀ (path : Text) (g : Grammar), (locate? path).isSome = true →
      ofPath (g.rename path) = g ∧ (locate? (g.rename path)).isSome = true := by
  intro h
  obtain ⟨hof, -⟩ := h "..a".toList markdown (by decide)
  exact absurd hof (by decide)

end Grammar
end MarkupBridge
