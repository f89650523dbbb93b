import MarkupBridge.Wiki.Line
import MarkupBridge.Wiki.Opening

namespace MarkupBridge.Wiki
open Text

/-- The paragraph of an entry; an empty text gives none. -/
def Entry.paragraph (e : Entry) : List Block :=
  if e.text.isEmpty then [] else [.paragraph [Span.ofLine e.text]]

/-- A list of items `depth` tabs deep, and the lines after it. So far `item` is its last item, after
`items`; no line less deep than `least` belongs to it. Deeper lines make lists inside the item
before them; one less deep, or with another marker, ends the list. -/
def takeItems (least depth : Nat) (marker : Marker) (items : List (List Block))
    (item : List Block) : (ls : List Text) → { r : Block × List Text // r.2 <:+ ls }
  | [] => ⟨(.list marker (items ++ [item]), []), List.suffix_refl _⟩
  | line :: ls =>
    let ended : { r : Block × List Text // r.2 <:+ line :: ls } :=
      ⟨(.list marker (items ++ [item]), line :: ls), List.suffix_refl _⟩
    match Entry.read? line with
    | none => ended
    | some e =>
      if e.depth < least then ended
      else if e.depth < depth then ended
      else if depth < e.depth then
        let ⟨(nested, rest), hrest⟩ := takeItems (depth + 1) e.depth e.marker [] e.paragraph ls
        let ⟨r, hr⟩ := takeItems least depth marker items (item ++ [nested]) rest
        ⟨r, (hr.trans hrest).trans (List.suffix_cons line ls)⟩
      else if marker ≠ e.marker then ended
      else
        let ⟨r, hr⟩ := takeItems least depth marker (items ++ [item]) e.paragraph ls
        ⟨r, hr.trans (List.suffix_cons line ls)⟩
termination_by ls => ls.length
decreasing_by
  · simp
  · exact Nat.lt_succ_of_le hrest.length_le
  · simp

/-- The list whose first line is `e`, and the lines after it. -/
def takeList (e : Entry) (ls : List Text) : Block × List Text :=
  (takeItems 0 e.depth e.marker [] e.paragraph ls).1

theorem takeList_suffix (e : Entry) (ls : List Text) : (takeList e ls).2 <:+ ls :=
  (takeItems 0 e.depth e.marker [] e.paragraph ls).2

end MarkupBridge.Wiki
