import MarkupBridge.Proofs.RoundTrip
import MarkupBridge.Proofs.WellFormed

namespace MarkupBridge

namespace Wiki
open Text

theorem Block.wellFormed_code_of_mem {text contents : Text} {language : Option Text}
    (h : .code language contents ∈ ofText text) : WellFormed (.code language contents) := by
  rw [ofText_eq] at h
  obtain ⟨c, hc, hblock⟩ := List.mem_map.mp h
  have hform := Chunk.all_wellFormed (fun l => not_mem_of_mem_lines) c hc
  cases c with
  | block b =>
    obtain rfl : b = .code language contents := hblock
    exact hform _ List.mem_cons_self
  | quote _ | table _ _ | image _ _ => cases hblock

end Wiki

namespace Import
open Text Markdown Wiki

/-- The line feed after a value parts no line of it from the others. -/
theorem exists_isPrefix_of_mem_lines {value l : Text} (hr : '\r' ∉ value) (h : l ∈ lines value) :
    ∃ m ∈ lines (value ++ ['\n']), l <+: m := by
  rw [← endedLines_split, lines_endedLines fun m => isLine_of_mem_split hr]
  exact mem_endLines h

theorem ofText_document_of_survives {n : Node} (h : Survives n) (hroot : isRoot n = false)
    (hdefs : n.definitions = []) : Wiki.Block.ofText (document n).text = [readBack n] := by
  have hempty : (draftOf n).definitions = [] := by
    rw [draftOf, hdefs]
    rfl
  have htext : (document n).text = endedLines (written n) := by
    rw [document_text hroot, block_eq h hempty rfl]
    rfl
  have hall := all_written h .nil
  rw [List.append_nil, Chunk.all_nil] at hall
  rw [htext, Wiki.Block.ofText_eq, lines_endedLines (isLine_written h), hall]
  rfl

/-- Code with a value that has no carriage return is read back as one block, with its language and
its value, exactly if no line of the value begins like a fence. -/
theorem ofText_code_iff {lang : Option Text} (hlang : ∀ t ∈ lang, Opening.IsLanguage t)
    (info : Option Text) {value : Text} (hr : '\r' ∉ value) :
    Wiki.Block.ofText (document (.code lang info value)).text =
        [.code lang (if value.isEmpty then [] else value ++ ['\n'])] ↔
      ∀ l ∈ lines value, Opening.isFence l = false := by
  constructor
  · intro h l hl
    by_cases hne : value.isEmpty = true
    · rw [List.isEmpty_iff.mp hne] at hl
      cases hl
    rw [if_neg hne] at h
    have hmem : .code lang (value ++ ['\n']) ∈
        Wiki.Block.ofText (document (.code lang info value)).text := by
      rw [h]
      exact List.mem_cons_self
    obtain ⟨-, -, hfence⟩ := Wiki.Block.wellFormed_code_of_mem hmem
    obtain ⟨m, hm, hstart⟩ := exists_isPrefix_of_mem_lines hr hl
    exact isFence_of_isPrefix hstart (hfence m hm)
  · intro h
    exact ofText_document_of_survives (n := .code lang info value) ⟨hlang, hr, h⟩ rfl rfl

/-- A value of an indented fence, a blank line and a line feed at the end. -/
theorem ofText_code_iff_indented :
    (∀ t ∈ some ['c'], Opening.IsLanguage t) ∧
      '\r' ∉ [' ', '\x60', '\x60', '\x60', '\n', '\n', 'd', '\n'] ∧
      Wiki.Block.ofText (document (.code (some ['c']) none
        [' ', '\x60', '\x60', '\x60', '\n', '\n', 'd', '\n'])).text =
      [.code (some ['c']) [' ', '\x60', '\x60', '\x60', '\n', '\n', 'd', '\n', '\n']] :=
  have hlang : ∀ t ∈ some ['c'], Opening.IsLanguage t := by decide
  have hr : '\r' ∉ [' ', '\x60', '\x60', '\x60', '\n', '\n', 'd', '\n'] := by decide
  ⟨hlang, hr, (ofText_code_iff hlang none hr).mpr (by decide)⟩

/-- A value of a fence alone ends its own block, and the fence written after it opens another. -/
theorem ofText_code_fence :
    Wiki.Block.ofText (document (.code none none ['\x60', '\x60', '\x60'])).text =
        [.code none [], .code none []] ∧
      ¬ ∀ (lang info : Option Text) (value : Text), (∀ t ∈ lang, Opening.IsLanguage t) →
        '\r' ∉ value → Wiki.Block.ofText (document (.code lang info value)).text =
          [.code lang (if value.isEmpty then [] else value ++ ['\n'])] := by
  have hread : Wiki.Block.ofText (document (.code none none ['\x60', '\x60', '\x60'])).text =
      [.code none [], .code none []] := by
    have hfirst : Chunk.read ['\x60', '\x60', '\x60'] [['\x60', '\x60', '\x60'],
        ['\x60', '\x60', '\x60']] = (.block (.code none []), [['\x60', '\x60', '\x60']]) := rfl
    have hlast : Chunk.read ['\x60', '\x60', '\x60'] [] = (.block (.code none []), []) := rfl
    rw [Wiki.Block.ofText_eq]
    apply (Chunk.map_all (by decide) hfirst).trans
    rw [Chunk.map_all (by decide) hlast, Chunk.all_nil]
    rfl
  apply And.intro hread
  intro h
  have hone := h none none ['\x60', '\x60', '\x60'] (by simp) (by decide)
  rw [hread] at hone
  cases hone

end Import
end MarkupBridge
