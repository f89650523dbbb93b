import MarkupBridge.Export.Line
import MarkupBridge.Proofs.Addresses

namespace MarkupBridge
open Text

namespace Site
open Address

theorem documentName_eq (s : Site) {name : Text} (h : isRelative name = false) :
    s.documentName name = canonicalName name := by
  obtain ⟨hbelow, hbeside⟩ := Bool.or_eq_false_iff.mp h
  rw [documentName, absoluteName, Option.not_isSome_iff_eq_none.mp (Bool.eq_false_iff.mp hbelow),
    Option.not_isSome_iff_eq_none.mp (Bool.eq_false_iff.mp hbeside)]

theorem resolve_eq (s : Site) {address name anchor : Text}
    (hverbatim : isVerbatim (trim address) = false) (h : Parts (trim address) name anchor) :
    s.resolve address =
      ⟨s.documentPrefix ++ s.documentName name ++ anchor, some (s.documentName name)⟩ := by
  unfold resolve
  generalize trim address = t at h hverbatim ⊢
  simp only [hverbatim, Bool.false_eq_true, if_false]
  cases h with
  | plain h =>
    rw [cutChar?_of_not_mem h, List.append_nil]
  | anchored h anchor =>
    rw [cutChar?_append h]

theorem isVerbatim_eq_false {s : Site} {address name : Text}
    (h : (s.resolve address).document = some name) : isVerbatim (trim address) = false := by
  refine Bool.eq_false_iff.mpr fun hverbatim => ?_
  rw [resolve, if_pos hverbatim] at h
  cases h

end Site

namespace Export
open Address Wiki

/-- Up to case, a link into the wiki is written without the prefix of its target. -/
theorem lower_destination {r : Resolver} (hne : r.documentPrefix ≠ []) {l : Link}
    {rest name : Text} (h : r.resolve l.address = ⟨r.documentPrefix ++ rest, some name⟩) :
    lower (destination r l) = lower rest := by
  have hrest : after? r.documentPrefix (r.documentPrefix ++ rest) = some rest :=
    after?_eq_some_iff.mpr rfl
  have hinside : (Target.isInternal ⟨r.documentPrefix ++ rest, some name⟩
      && !r.documentPrefix.isEmpty) = true := by
    simpa [Target.isInternal] using hne
  rw [destination, h]
  simp only [hinside, if_true, hrest, Option.getD_some]
  split
  · assumption
  · rfl

/-- A link into the wiki whose address is not against the current document leads to that document
again, unless what is written is an address kept as it is. The name of the document is such an
address then. -/
theorem resolve_destination {s : Site} (hne : s.documentPrefix ≠ []) {l : Link} {name : Text}
    (hname : (s.resolve l.address).document = some name)
    (hrelative : isRelative (trim l.address) = false) :
    (isVerbatim (destination s.resolver l) = false →
      (s.resolve (destination s.resolver l)).document = some name) ∧
    (isVerbatim (destination s.resolver l) = true → isVerbatim name = true) := by
  have hverbatim := Site.isVerbatim_eq_false hname
  obtain ⟨n, anchor, hparts⟩ := exists_parts (trim l.address)
  have hresolve := s.resolve_eq hverbatim hparts
  rw [s.documentName_eq (hparts.isRelative_eq ▸ hrelative), List.append_assoc] at hresolve
  obtain rfl : canonicalName n = name := by
    rw [hresolve] at hname
    exact Option.some.inj hname
  -- what is written has its name and its anchor where the target has them, up to case
  have hlower := lower_destination (r := s.resolver) hne hresolve
  generalize destination s.resolver l = href at hlower ⊢
  obtain ⟨n', anchor', hparts', hlower'⟩ := hparts.canonical.of_lower_eq hlower
  rw [lower_canonicalName] at hlower'
  constructor
  · intro hinside
    have htrim : trim href = href :=
      trim_eq_self_of_lower hlower (hparts.trim_canonical (trim_trim _))
    have hrelative' : isRelative n' = false := by
      rw [← isRelative_lower, hlower', isRelative_canonicalName]
      exact hparts.isRelative_trim (trim_trim _) hrelative
    rw [s.resolve_eq (htrim.symm ▸ hinside) (htrim.symm ▸ hparts'), s.documentName_eq hrelative',
      canonicalName_of_lower_eq hlower']
  · intro hkept
    -- the name is not empty, so what is written does not begin with an anchor
    have hsharp : startsWith ['#'] href = false := by
      rw [← startsWith_lower (by decide), hlower, startsWith_lower (by decide)]
      exact hparts.startsWith_canonical (trim_trim _) (startsWith_sharp hverbatim)
    rw [← hlower']
    exact isVerbatim_lower (hparts'.isVerbatim_name hsharp hkept)

/-- The text is written in place of the name, which it differs from in case alone, and its anchor
with it. -/
theorem resolve_destination_anchor :
    let l : Link := ⟨" Big Page#Top".toList, some "BIG_page#TOP".toList⟩
    destination Site.default.resolver l = "BIG_page#TOP".toList ∧
      (Site.default.resolve (destination Site.default.resolver l)).document =
        some "big_page".toList := by
  intro l
  exact ⟨by decide, (resolve_destination (s := Site.default) (l := l) (by decide) (by decide)
    (by decide)).1 (by decide)⟩

/-- A name that is an address kept as it is in lower case only: its document is lost. -/
theorem resolve_destination_lost :
    let l : Link := ⟨"MAILTO:a".toList, some ['b']⟩
    (Site.default.resolve l.address).document = some "mailto:a".toList ∧
      isRelative (trim l.address) = false ∧
      destination Site.default.resolver l = "mailto:a".toList ∧
      Site.default.resolve "mailto:a".toList = .external "mailto:a".toList ∧
      ¬ ∀ (s : Site) (l : Link) (name : Text), s.documentPrefix ≠ [] →
        (s.resolve l.address).document = some name → isRelative (trim l.address) = false →
        (s.resolve (destination s.resolver l)).document = some name := by
  intro l
  have hname : (Site.default.resolve l.address).document = some "mailto:a".toList := by decide
  have hlost : (Site.default.resolve (destination Site.default.resolver l)).document = none := by
    decide
  refine ⟨hname, by decide, by decide, by decide, fun h => ?_⟩
  have hkept := h Site.default l _ (by decide) hname (by decide)
  rw [hlost] at hkept
  cases hkept

end Export

end MarkupBridge
