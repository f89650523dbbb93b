import MarkupBridge.Proofs.Appending

namespace MarkupBridge.Export
open Text Wiki

/-- A text whose last line is ended. -/
def Ended (t : Text) : Prop := t.getLast? = some '\n'

instance : DecidablePred Ended := fun t => inferInstanceAs (Decidable (t.getLast? = some '\n'))

theorem ended_append {u : Text} (hu : u ≠ []) (t : Text) : Ended (t ++ u) ↔ Ended u := by
  unfold Ended
  rw [List.getLast?_append, List.getLast?_eq_some_getLast hu]
  rfl

theorem ended_newline (t : Text) : Ended (t ++ ['\n']) := List.getLast?_concat

theorem Ended.append {u : Text} (hu : Ended u) (t : Text) : Ended (t ++ u) := by
  have hne : u ≠ [] := by
    rintro rfl
    cases hu
  exact (ended_append hne t).mpr hu

/-- A block that writes nothing. -/
def Block.isSilent : Block → Bool
  | .quote [] | .list _ [] => true
  | _ => false

mutual

/-- Whether a block that writes something ends its line. Only a list may fail to. -/
def Block.endsLine : Block → Bool
  | .list _ items => endsList items
  | _ => true

/-- The last item decides. -/
def Block.endsList : List (List Block) → Bool
  | [] => true
  | item :: items => if items.isEmpty then endsItem true false item else endsList items

/-- Whether the line of an item is ended after its blocks. While `isOpen` none of them has been
written; `ended` says how the text before them ends. A silent block is written all the same, so the
line that it finds open stays so. -/
def Block.endsItem (isOpen ended : Bool) : List Block → Bool
  | [] => isOpen || ended
  | b :: bs => endsItem false
    (if Block.isSilent b then ended || isOpen && Block.isList b else Block.endsLine b) bs

end

/-- What a block writes: nothing, or a text that ends as the block does. -/
structure EndsAs (b : Block) (t : Text) : Prop where
  nil_of_isSilent : Block.isSilent b = true → t = []
  ended_iff : Block.isSilent b = false → t ≠ [] ∧ (Ended t ↔ Block.endsLine b = true)

theorem EndsAs.of_ended {b : Block} {t : Text} (hb : Block.endsLine b = true)
    (hs : Block.isSilent b = false) (ht : Ended t) : EndsAs b t := by
  refine ⟨fun h => ?_, fun _ => ⟨?_, fun _ => hb, fun _ => ht⟩⟩
  · rw [hs] at h
    cases h
  · rintro rfl
    cases ht

theorem quoted_ended (s : Setting) (depth : Nat) (bs : List Block) {d : Draft}
    (hd : Ended d.text) : Ended (quoted s depth bs d).text := by
  induction bs generalizing d with
  | nil =>
    rw [quoted]
    exact hd
  | cons b bs ih =>
    rw [quoted]
    exact ih ((ended_newline _).append _)

theorem list_text_ne_nil (s : Setting) (depth : Nat) (marker : Marker) (item : List Block)
    (items : List (List Block)) : (list s depth marker (item :: items) .empty).text ≠ [] := by
  have hmarker : listMarker marker ≠ [] := by cases marker <;> exact List.cons_ne_nil _ _
  rw [list, list_appends, itemBlocks_appends]
  intro h
  obtain ⟨h, -⟩ := List.append_eq_nil_iff.mp h
  obtain ⟨h, -⟩ := List.append_eq_nil_iff.mp h
  exact hmarker (List.append_eq_nil_iff.mp h).2

theorem code_ended (language : Option Text) (contents : Text) : Ended (code language contents) := by
  have hfence : Ended "\x60\x60\x60\n".toList := by decide
  exact hfence.append _

theorem listMarker_not_ended (marker : Marker) (t : Text) : ¬ Ended (t ++ listMarker marker) := by
  have hmarker : listMarker marker ≠ [] ∧ ¬ Ended (listMarker marker) := by
    cases marker <;> exact ⟨List.cons_ne_nil _ _, by decide⟩
  rw [ended_append hmarker.1]
  exact hmarker.2

mutual

/-- Every block ends as its shape says, whatever it resolves to and however deep it stands. -/
theorem block_endsAs (s : Setting) (depth : Nat) :
    (b : Block) → EndsAs b (block s depth b .empty).text
  | .heading _ _ | .paragraph _ => by
    rw [block]
    exact .of_ended rfl rfl (ended_newline _)
  | .code language contents => by
    rw [block]
    exact .of_ended rfl rfl (code_ended language contents)
  | .rule => by
    rw [block]
    exact .of_ended rfl rfl (by decide)
  | .transclusion _ => by
    rw [block]
    exact .of_ended rfl rfl (Ended.append (u := placeholder) (by decide) _)
  | .unknown _ => by
    rw [block]
    exact .of_ended rfl rfl (Ended.append (Ended.append (by decide) _) _)
  | .launchpad _ => by
    rw [block]
    exact .of_ended rfl rfl (Ended.append (by decide) _)
  | .table _ [] | .table _ (_ :: _) | .image _ [] | .image _ (_ :: _ :: _) => by
    simp only [block]
    exact .of_ended rfl rfl (Ended.append (by decide) _)
  | .image _ [e] => by
    rw [block]
    refine .of_ended rfl rfl (Ended.append (Ended.append ?_ _) _)
    decide
  | .quote [] => by
    rw [block, quoted]
    exact ⟨fun _ => rfl, fun h => by cases h⟩
  | .quote (b :: bs) => by
    rw [block, quoted]
    exact .of_ended rfl rfl (quoted_ended s depth bs ((ended_newline _).append _))
  | .list marker [] => by
    rw [block, list]
    exact ⟨fun _ => rfl, fun h => by cases h⟩
  | .list marker (item :: items) => by
    rw [block]
    exact ⟨fun h => (by cases h), fun _ => ⟨list_text_ne_nil s depth marker item items,
      list_ended s depth marker (item :: items) (List.cons_ne_nil _ _) .empty⟩⟩

theorem list_ended (s : Setting) (depth : Nat) (marker : Marker) :
    (items : List (List Block)) → items ≠ [] → ∀ d : Draft,
      (Ended (list s depth marker items d).text ↔ Block.endsList items = true)
  | [], h => absurd rfl h
  | item :: items, _ => by
    intro d
    rw [list, Block.endsList]
    cases items with
    | nil =>
      rw [list]
      refine itemBlocks_ended s depth true false item _ ?_
      exact ⟨fun h => absurd h (listMarker_not_ended marker _), fun h => by cases h⟩
    | cons next items =>
      exact list_ended s depth marker (next :: items) (List.cons_ne_nil _ _) _

theorem itemBlocks_ended (s : Setting) (depth : Nat) (isOpen ended : Bool) :
    (bs : List Block) → ∀ d : Draft, (Ended d.text ↔ ended = true) →
      (Ended (itemBlocks s depth isOpen bs d).text ↔ Block.endsItem isOpen ended bs = true)
  | [], d, hd => by
    rw [itemBlocks, Block.endsItem]
    cases isOpen with
    | false => exact hd
    | true => exact ⟨fun _ => rfl, fun _ => ended_newline _⟩
  | b :: bs, d, hd => by
    -- What follows sees how the text ends after this block.
    have hstep : ∀ depth' d', (Ended d'.text ↔ (ended || isOpen && Block.isList b) = true) →
        (Ended (block s depth' b d').text ↔ (if Block.isSilent b then
          ended || isOpen && Block.isList b else Block.endsLine b) = true) := by
      intro depth' d' hd'
      have hb := block_endsAs s depth' b
      rw [block_appends s depth' b d', Draft.append_text]
      cases hs : Block.isSilent b with
      | true =>
        rw [hb.nil_of_isSilent hs, List.append_nil]
        exact hd'
      | false =>
        obtain ⟨hne, hended⟩ := hb.ended_iff hs
        rw [ended_append hne]
        exact hended
    rw [itemBlocks, Block.endsItem]
    cases hlist : Block.isList b with
    | false =>
      rw [hlist, Bool.and_false, Bool.or_false] at hstep
      rw [Bool.and_false, Bool.or_false, if_neg Bool.false_ne_true]
      exact itemBlocks_ended s depth false _ bs _ (hstep depth d hd)
    | true =>
      rw [hlist, Bool.and_true] at hstep
      rw [Bool.and_true, if_pos rfl]
      refine itemBlocks_ended s depth false _ bs _ (hstep (depth + 1) _ ?_)
      cases isOpen with
      | false =>
        rw [Bool.or_false]
        exact hd
      | true =>
        rw [Bool.or_true]
        exact ⟨fun _ => rfl, fun _ => ended_newline _⟩

end

theorem document_singleton (s : Setting) (b : Block) :
    document s [b] = (block s 0 b .empty).finish := rfl

theorem separated_text (s : Setting) (bs : List Block) (d : Draft) :
    (separated s bs d).text = d.text ++ join ['\n'] (bs.map fun b => (document s [b]).text) := by
  induction bs generalizing d with
  | nil => simp [separated, join]
  | cons b bs ih =>
    cases bs with
    | nil =>
      rw [separated, block_appends]
      rfl
    | cons c bs =>
      have hne : c :: bs ≠ [] := List.cons_ne_nil c bs
      rw [separated.eq_3 s d b _ hne, ih, block_appends]
      simp [join, document_singleton, Draft.finish]

theorem separated_warnings (s : Setting) (bs : List Block) (d : Draft) :
    (separated s bs d).warnings.entries =
      d.warnings.entries ++ bs.flatMap fun b => (document s [b]).warnings := by
  induction bs generalizing d with
  | nil => simp [separated]
  | cons b bs ih =>
    cases bs with
    | nil =>
      rw [separated, block_appends]
      simp [document_singleton, Draft.finish, Draft.append]
    | cons c bs =>
      have hne : c :: bs ≠ [] := List.cons_ne_nil c bs
      rw [separated.eq_3 s d b _ hne, ih, block_appends]
      simp [document_singleton, Draft.finish, Draft.append, Draft.write]

/-- A document is its blocks converted alone: their texts with a line feed between any two of them,
and their warnings one after the other. A text that is not empty ends with its line exactly if its
block does. -/
theorem document_isolated (s : Setting) (bs : List Block) :
    (document s bs).text = join ['\n'] (bs.map fun b => (document s [b]).text) ∧
      (document s bs).warnings = bs.flatMap (fun b => (document s [b]).warnings) ∧
      ∀ b, ((document s [b]).text = [] ∨ Ended (document s [b]).text ↔
        Block.endsLine b = true) := by
  refine ⟨separated_text s bs .empty, separated_warnings s bs .empty, fun b => ?_⟩
  have hb := block_endsAs s 0 b
  rw [document_singleton]
  show (block s 0 b .empty).text = [] ∨ Ended (block s 0 b .empty).text ↔ _
  cases hs : Block.isSilent b with
  | true =>
    have hends : Block.endsLine b = true := by
      unfold Block.isSilent at hs
      split at hs
      · rfl
      · rw [Block.endsLine, Block.endsList]
      · cases hs
    exact ⟨fun _ => hends, fun _ => .inl (hb.nil_of_isSilent hs)⟩
  | false =>
    obtain ⟨hne, hended⟩ := hb.ended_iff hs
    rw [or_iff_right hne]
    exact hended

/-- A quote without contents writes nothing, and leaves the line of its item open. -/
theorem not_ended_document_quote :
    ¬ ∀ (s : Setting) (b : Block),
      (document s [b]).text = [] ∨ Ended (document s [b]).text := by
  intro h
  rcases h ⟨Site.default.resolver, defaultIndent⟩ (.list .unordered [[.quote []]]) with h | h
  · exact absurd h (by decide)
  · exact absurd h (by decide)

end MarkupBridge.Export
