import MarkupBridge.Proofs.Tags

namespace MarkupBridge.Html
open Text Markdown

/-- What a `<` starts. -/
inductive Mark where
  | comment
  | start (name : Text)
  | stop (name : Text)
deriving DecidableEq, Repr

def tagName (t : Text) : Text := t.takeWhile Tag.isNameChar

/-- The mark whose `<` comes before `t`, if it ends in `t`. -/
def Mark.read? : Text → Option Mark
  | '!' :: t =>
    (after? ['-', '-'] t).bind fun t =>
      if (Tag.past? "-->" t).isSome then some .comment else none
  | '/' :: t => if (Tag.finish? .closingName t).isSome then some (.stop (tagName t)) else none
  | t => if (Tag.finish? .name t).isSome then some (.start (tagName t)) else none

theorem tagName_append {t : Text} (h : '>' ∈ t) (u : Text) : tagName (t ++ u) = tagName t := by
  have hend : (t.takeWhile Tag.isNameChar).length ≠ t.length := by
    intro hall
    rw [← (List.takeWhile_prefix Tag.isNameChar).eq_of_length hall] at h
    exact not_mem_of_all List.all_takeWhile rfl h
  rw [tagName, List.takeWhile_append, if_neg hend]
  rfl

namespace Mark

/-- The texts that begin with a mark, but for its `<`. -/
inductive Begins : Mark → Text → Prop
  | comment (h : "-->".toList <:+: t) : Begins .comment ('!' :: '-' :: '-' :: t)
  | stop (h : (Tag.finish? .closingName t).isSome = true) : Begins (.stop (tagName t)) ('/' :: t)
  | start (hbang : c ≠ '!') (hslash : c ≠ '/') (h : (Tag.finish? .name (c :: t)).isSome = true) :
    Begins (.start (tagName (c :: t))) (c :: t)

theorem read?_eq_some_iff {t : Text} {m : Mark} : read? t = some m ↔ Begins m t := by
  constructor
  · intro h
    unfold read? at h
    split at h
    · obtain ⟨r, hr, h⟩ := Option.bind_eq_some_iff.mp h
      obtain ⟨hend, hm⟩ := Option.ite_none_right_eq_some.mp h
      cases hm
      rw [after?_eq_some_iff.mp hr]
      exact .comment (Tag.isSome_past?_iff.mp hend)
    · obtain ⟨hend, hm⟩ := Option.ite_none_right_eq_some.mp h
      cases hm
      exact .stop hend
    · next hbang hslash =>
      obtain ⟨hend, hm⟩ := Option.ite_none_right_eq_some.mp h
      cases hm
      cases t with
      | nil => cases hend
      | cons c t => exact .start (fun hc => hbang t (hc ▸ rfl)) (fun hc => hslash t (hc ▸ rfl)) hend
  · intro h
    cases h with
    | comment h => exact if_pos (Tag.isSome_past?_iff.mpr h)
    | stop h => exact if_pos h
    | start hbang hslash h =>
      rw [read?, if_pos h]
      · rintro _ ⟨⟩
        exact hbang rfl
      · rintro _ ⟨⟩
        exact hslash rfl

/-- A mark ends with `>`. -/
theorem Begins.mem {m : Mark} {t : Text} (h : Begins m t) : '>' ∈ t := by
  cases h with
  | comment h =>
    have hmem := h.subset (show '>' ∈ "-->".toList by decide)
    simp [hmem]
  | stop h => exact List.mem_cons_of_mem _ (Tag.mem_of_finish? (p := .closingName) nofun h)
  | start _ _ h => exact Tag.mem_of_finish? (p := .name) nofun h

/-- What follows a mark does not matter. -/
theorem Begins.append {m : Mark} {t : Text} (h : Begins m t) (u : Text) : Begins m (t ++ u) := by
  cases h with
  | comment h => exact .comment (h.trans (List.prefix_append _ u).isInfix)
  | stop h =>
    rw [← tagName_append (Tag.mem_of_finish? (p := .closingName) nofun h) u]
    exact .stop (Tag.isSome_finish?_append h u)
  | start hbang hslash h =>
    rw [← tagName_append (Tag.mem_of_finish? (p := .name) nofun h) u]
    exact .start hbang hslash (Tag.isSome_finish?_append h u)

theorem isInfix_of_append {t u : Text} (hu : '>' ∉ u) (h : "-->".toList <:+: t ++ u) :
    "-->".toList <:+: t := by
  obtain ⟨a, b, hab⟩ := h
  rcases List.append_eq_append_iff.mp hab with ⟨c, ht, -⟩ | ⟨c, hc, rfl⟩
  · exact ⟨a, c, ht.symm⟩
  · rcases List.eq_nil_or_concat c with rfl | ⟨c, x, rfl⟩
    · exact ⟨a, [], by simpa using hc⟩
    · have hlast : (a ++ "-->".toList).getLast? = (t ++ c.concat x).getLast? := by rw [hc]
      have hx : '>' = x := by simpa using hlast
      subst hx
      simp at hu

/-- A mark has come to its end before a text without `>`. -/
theorem Begins.of_append {m : Mark} {t u : Text} (hu : '>' ∉ u) (h : Begins m (t ++ u)) :
    Begins m t := by
  have hmem : '>' ∈ t := (List.mem_append.mp h.mem).resolve_right hu
  cases t with
  | nil => cases hmem
  | cons c t =>
    rw [List.cons_append] at h
    generalize hv : c :: (t ++ u) = v at h
    cases h with
    | comment h =>
      -- The `>` of `t` is none of the two dashes, so these are in `t` as well.
      match t with
      | [] =>
        cases hv
        simp at hmem
      | [_] =>
        cases hv
        simp at hmem
      | _ :: _ :: t =>
        cases hv
        exact .comment (isInfix_of_append hu h)
    | stop h =>
      cases hv
      rw [Tag.isSome_finish?_append_of_not_mem (p := .closingName) nofun t hu] at h
      rw [tagName_append (Tag.mem_of_finish? (p := .closingName) nofun h)]
      exact .stop h
    | start hbang hslash h =>
      cases hv
      rw [← List.cons_append] at h ⊢
      rw [Tag.isSome_finish?_append_of_not_mem (p := .name) nofun _ hu] at h
      rw [tagName_append (Tag.mem_of_finish? (p := .name) nofun h)]
      exact .start hbang hslash h

theorem read?_append_of_not_mem (t : Text) {u : Text} (hu : '>' ∉ u) :
    read? (t ++ u) = read? t := by
  apply Option.ext
  intro m
  rw [read?_eq_some_iff, read?_eq_some_iff]
  exact ⟨.of_append hu, fun h => h.append u⟩

/-- A name and attributes are a tag with the `>` after them. -/
theorem read?_start {name : Text} (hne : name ≠ []) (hname : name.all Tag.isNameChar = true)
    {as : List (Text × Text)} (has : ∀ a ∈ as, Tag.IsAssignment a) :
    read? (name ++ Tag.assignments as ++ ['>']) = some (.start name) := by
  have hfinish : Tag.finish? .name (name ++ (Tag.assignments as ++ ['>'])) = some [] := by
    rw [Tag.finish?_nameChars hname, Tag.finish?_assignments has (.inl rfl)]
  have htag : tagName (name ++ (Tag.assignments as ++ ['>'])) = name := by
    have hrest : (Tag.assignments as ++ ['>']).takeWhile Tag.isNameChar = [] := by
      cases as <;> rfl
    rw [tagName, List.takeWhile_append_of_pos (List.all_eq_true.mp hname), hrest, List.append_nil]
  cases name with
  | nil => exact absurd rfl hne
  | cons c name =>
    have hc : Tag.isNameChar c = true := (Bool.and_eq_true_iff.mp hname).1
    have hbang : c ≠ '!' := by
      rintro rfl
      cases hc
    have hslash : c ≠ '/' := by
      rintro rfl
      cases hc
    have hbegins : Begins (.start (tagName (c :: name ++ (Tag.assignments as ++ ['>']))))
        (c :: name ++ (Tag.assignments as ++ ['>'])) :=
      .start hbang hslash (Option.isSome_of_eq_some hfinish)
    rw [htag] at hbegins
    rw [List.append_assoc]
    exact read?_eq_some_iff.mpr hbegins

end Mark

/-- Elements that are closed where they are opened. -/
def voids : List Text := ["img", "br"].map String.toList

def elements : List Text :=
  ["table", "caption", "thead", "tbody", "tr", "th", "td", "div", "a", "sup", "sub", "u",
    "mark"].map String.toList

/-- The elements that are open after a mark, the innermost first. Only the innermost can be
closed. -/
def Mark.step? (opened : List Text) : Mark → Option (List Text)
  | .comment => some opened
  | .start name =>
    if voids.contains name then some opened
    else if elements.contains name then some (name :: opened)
    else none
  | .stop name => match opened with
    | [] => none
    | inner :: outer => if inner = name then some outer else none

/-- The elements that are open after a text with `opened` before it. -/
def opened? (opened : List Text) : Text → Option (List Text)
  | [] => some opened
  | c :: t =>
    if c = '<' then
      (Mark.read? (t.takeWhile (· != '<'))).bind fun m => (m.step? opened).bind fun o => opened? o t
    else opened? opened t

variable {o o₁ : List Text} {t u : Text}

/-- Reading goes on with the elements that are open where the first text ends. -/
theorem opened?_append (h : opened? o t = some o₁) (u : Text) :
    opened? o (t ++ u) = opened? o₁ u := by
  induction t generalizing o with
  | nil =>
    cases h
    rfl
  | cons c t ih =>
    rw [List.cons_append, opened?]
    by_cases hc : c = '<'
    · rw [opened?, if_pos hc, Option.bind_eq_some_iff] at h
      obtain ⟨m, hm, h⟩ := h
      obtain ⟨o₂, hstep, h⟩ := Option.bind_eq_some_iff.mp h
      -- The last mark of `t` is read with what of `u` comes before the next `<`.
      have hread : Mark.read? ((t ++ u).takeWhile (· != '<')) = some m := by
        rw [List.takeWhile_append]
        split
        · next hall =>
          rw [(List.takeWhile_prefix _).eq_of_length hall] at hm
          exact Mark.read?_eq_some_iff.mpr ((Mark.read?_eq_some_iff.mp hm).append _)
        · exact hm
      rw [if_pos hc, hread, Option.bind_some, hstep, Option.bind_some]
      exact ih h
    · rw [opened?, if_neg hc] at h
      rw [if_neg hc]
      exact ih h

theorem opened?_of_not_mem (h : '<' ∉ t) : opened? o t = some o := by
  induction t with
  | nil => rfl
  | cons c t ih =>
    rw [opened?, if_neg (Ne.symm (List.ne_of_not_mem_cons h))]
    exact ih (List.not_mem_of_not_mem_cons h)

/-- What comes after the last mark is in no tag. -/
theorem opened?_append_plain (t : Text) (hopen : '<' ∉ u) (hend : '>' ∉ u) :
    opened? o (t ++ u) = opened? o t := by
  induction t generalizing o with
  | nil => exact opened?_of_not_mem hopen
  | cons c t ih =>
    have hread : Mark.read? ((t ++ u).takeWhile (· != '<')) =
        Mark.read? (t.takeWhile (· != '<')) := by
      rw [List.takeWhile_append]
      split
      · next hall =>
        have hu : '>' ∉ u.takeWhile (· != '<') :=
          fun h => hend ((List.takeWhile_prefix _).subset h)
        rw [(List.takeWhile_prefix _).eq_of_length hall, Mark.read?_append_of_not_mem t hu]
      · rfl
    rw [List.cons_append, opened?, opened?, hread]
    split
    · congr
      funext m
      congr
      funext o
      exact ih
    · exact ih

/-- A mark that has nothing after its end. -/
theorem opened?_mark {m : Mark} (hread : Mark.read? t = some m) (h : '<' ∉ t) :
    opened? o ('<' :: t) = m.step? o := by
  have hall : t.takeWhile (· != '<') = t := by
    have hpos : ∀ c ∈ t, (c != '<') = true := by
      intro c hc
      rw [bne_iff_ne]
      rintro rfl
      exact h hc
    simpa using @List.takeWhile_append_of_pos _ _ t [] hpos
  rw [opened?, if_pos rfl, hall, hread, Option.bind_some]
  cases m.step? o with
  | none => rfl
  | some o => exact opened?_of_not_mem h

/-- A start tag with its attributes. -/
theorem opened?_start {name : Text} (hne : name ≠ []) (hname : name.all Tag.isNameChar = true)
    {as : List (Text × Text)} (has : ∀ a ∈ as, Tag.IsAssignment a) (o : List Text) :
    opened? o ('<' :: (name ++ Tag.assignments as ++ ['>'])) = (Mark.start name).step? o := by
  have hmark : '<' ∉ name := not_mem_of_all hname rfl
  apply opened?_mark (Mark.read?_start hne hname has)
  simp [hmark, Tag.not_mem_assignments has]

/-- A text with nothing left open and nothing closed that it has not opened. -/
def IsBalanced (t : Text) : Prop := ∀ o, opened? o t = some o

namespace IsBalanced

theorem nil : IsBalanced [] := fun _ => rfl

theorem plain (h : '<' ∉ t) : IsBalanced t := fun _ => opened?_of_not_mem h

theorem append (ht : IsBalanced t) (hu : IsBalanced u) : IsBalanced (t ++ u) := by
  intro o
  rw [opened?_append (ht o)]
  exact hu o

theorem comment (h : '<' ∉ t) : IsBalanced ("<!--".toList ++ t ++ "-->".toList) := by
  intro o
  have hread : Mark.read? ("!--".toList ++ t ++ "-->".toList) = some .comment :=
    Mark.read?_eq_some_iff.mpr (.comment (List.suffix_append t _).isInfix)
  apply opened?_mark hread
  simp [h]

/-- What opens elements and what closes them may be around a text. -/
theorem between {before after : Text} (inner : List Text)
    (hbefore : ∀ o, opened? o before = some (inner ++ o)) (ht : IsBalanced t)
    (hafter : ∀ o, opened? (inner ++ o) after = some o) : IsBalanced (before ++ t ++ after) := by
  intro o
  rw [List.append_assoc, opened?_append (hbefore o), opened?_append (ht (inner ++ o))]
  exact hafter o

/-- What is dropped from the end is in no tag. -/
theorem dropEndWhile {p : Char → Bool} (hopen : p '<' = false) (hend : p '>' = false)
    (h : IsBalanced t) : IsBalanced (Text.dropEndWhile p t) := by
  have hsplit : t = Text.dropEndWhile p t ++ (t.reverse.takeWhile p).reverse := by
    rw [Text.dropEndWhile, ← List.reverse_append, List.takeWhile_append_dropWhile,
      List.reverse_reverse]
  have hdropped : ∀ c, p c = false → c ∉ (t.reverse.takeWhile p).reverse := by
    intro c hc hmem
    exact not_mem_of_all List.all_takeWhile hc (List.mem_reverse.mp hmem)
  intro o
  rw [← opened?_append_plain _ (hdropped '<' hopen) (hdropped '>' hend), ← hsplit]
  exact h o

theorem dropWhile {p : Char → Bool} (hopen : p '<' = false) (h : IsBalanced t) :
    IsBalanced (t.dropWhile p) := by
  induction t with
  | nil => exact nil
  | cons c t ih =>
    rw [List.dropWhile_cons]
    split
    · next hc =>
      have hne : c ≠ '<' := by
        rintro rfl
        rw [hopen] at hc
        cases hc
      refine ih fun o => ?_
      have ho := h o
      rwa [opened?, if_neg hne] at ho
    · exact h

theorem trim (h : IsBalanced t) : IsBalanced (Text.trim t) :=
  dropEndWhile rfl rfl (dropWhile rfl h)

end IsBalanced

end MarkupBridge.Html
