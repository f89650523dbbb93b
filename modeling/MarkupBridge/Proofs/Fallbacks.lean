import MarkupBridge.Proofs.Appending
import MarkupBridge.Proofs.Elements
import MarkupBridge.Proofs.Preorder

namespace MarkupBridge

namespace Wiki

/-- The strings of a span. -/
def Span.texts : Span → List Text
  | .text t => [t]
  | .toggle _ => []
  | .link l => l.address :: l.text.toList

namespace Block

/-- The strings of a block, without those of the blocks in it. -/
def texts : Block → List Text
  | .heading _ ls | .paragraph ls => ls.flatten.flatMap Span.texts
  | .code language contents => contents :: language.toList
  | .table caption _ => caption.toList
  | .image layout entries =>
    layout.toList ++ entries.flatMap fun e => e.target :: (e.width.toList ++ e.height.toList)
  | .launchpad rockets => rockets.flatMap fun r => Span.texts (.link r.link)
  | .transclusion target => [target]
  | .unknown kind => [kind]
  | .list _ _ | .rule | .quote _ => []

/-- A block none of whose own strings can start a tag. -/
def IsMarkless (b : Block) : Prop := ∀ t ∈ b.texts, '<' ∉ t

instance : DecidablePred IsMarkless := fun b => inferInstanceAs (Decidable (∀ t ∈ b.texts, '<' ∉ t))

end Block

end Wiki

/-- An address without `<` leads to one without it. -/
structure Resolver.IsMarkless (r : Resolver) : Prop where
  href : ∀ address, '<' ∉ address → '<' ∉ (r.resolve address).href
  imageSource : ∀ target, '<' ∉ target → '<' ∉ r.imageSource target

/-- The addresses that a table leaves out stand for themselves. -/
theorem Resolver.isMarkless_ofTable {table : List (Text × Target)}
    (h : ∀ entry ∈ table, '<' ∉ entry.2.href) (documentPrefix : Text) :
    (Resolver.ofTable table documentPrefix).IsMarkless := by
  have hhref : ∀ address, '<' ∉ address →
      '<' ∉ ((table.lookup address).getD (.external address)).href := by
    intro address haddress
    cases hlookup : table.lookup address with
    | none => exact haddress
    | some target =>
      obtain ⟨before, after, rfl, -⟩ := List.lookup_eq_some_iff.mp hlookup
      exact h (address, target) (by simp)
  exact ⟨hhref, hhref⟩

namespace Export
open Text Wiki Block Html
open Markdown.Tag (assignment assignments IsAssignment)

/-- What closes a style closes what opened it. -/
theorem balanced_style (k : Style) {t : Text} (ht : IsBalanced t) :
    IsBalanced (opening k ++ t ++ closing k) := by
  cases k with
  | super => exact .between ["sup".toList] (fun _ => rfl) ht fun _ => rfl
  | sub => exact .between ["sub".toList] (fun _ => rfl) ht fun _ => rfl
  | underline => exact .between ["u".toList] (fun _ => rfl) ht fun _ => rfl
  | mark => exact .between ["mark".toList] (fun _ => rfl) ht fun _ => rfl
  | bold | italic | strike | mono => exact .between [] (fun _ => rfl) ht fun _ => rfl

/-- Styles are closed in the order opposite to that of their opening. -/
theorem balanced_styled (styles : Styles) {t : Text} (ht : IsBalanced t) :
    IsBalanced (styled styles t) := by
  unfold styled
  induction styles.active with
  | nil => simpa using ht
  | cons k ks ih =>
    have hstyle := balanced_style k ih
    simpa using hstyle

variable {s : Setting}

/-- Neither an address nor the text of a link starts a tag where it is written. -/
theorem not_mem_destination (hs : s.resolver.IsMarkless) {l : Link}
    (h : ∀ t ∈ Span.texts (.link l), '<' ∉ t) :
    '<' ∉ l.display ∧ '<' ∉ destination s.resolver l := by
  have haddress : '<' ∉ l.address := h _ List.mem_cons_self
  have hdisplay : '<' ∉ l.display := by
    unfold Link.display
    cases ht : l.text with
    | none => exact haddress
    | some t => exact h t (by simp [Span.texts, ht])
  have hhref := hs.href l.address haddress
  have hrest : '<' ∉ (after? s.resolver.documentPrefix (s.resolver.resolve l.address).href).getD
      (s.resolver.resolve l.address).href := by
    cases hafter : after? s.resolver.documentPrefix (s.resolver.resolve l.address).href with
    | none => exact hhref
    | some rest =>
      rw [after?_eq_some_iff.mp hafter] at hhref
      exact fun hmem => hhref (List.mem_append_right _ hmem)
  refine ⟨hdisplay, ?_⟩
  unfold destination
  dsimp only
  split
  · split
    · exact hdisplay
    · exact hrest
  · split
    · exact hdisplay
    · exact hhref

theorem balanced_spans (hs : s.resolver.IsMarkless) (styles : Styles) {ss : List Span}
    (h : ∀ t ∈ ss.flatMap Span.texts, '<' ∉ t) : IsBalanced (spans s.resolver styles ss) := by
  induction ss generalizing styles with
  | nil => exact .nil
  | cons a ss ih =>
    obtain ⟨ha, hss⟩ := List.forall_mem_append.mp h
    cases a with
    | text t =>
      have htext := balanced_styled styles (.plain (ha t List.mem_cons_self))
      exact htext.append (ih styles hss)
    | toggle k => exact ih (styles.toggle k) hss
    | link l =>
      obtain ⟨hdisplay, hdestination⟩ := not_mem_destination hs ha
      refine IsBalanced.append (.plain ?_) (ih styles hss)
      simp [link, hdisplay, hdestination]

theorem balanced_join {mark : Text} (hmark : IsBalanced mark) {ts : List Text}
    (h : ∀ t ∈ ts, IsBalanced t) : IsBalanced (join mark ts) := by
  induction ts with
  | nil => exact .nil
  | cons t ts ih =>
    obtain ⟨ht, hts⟩ := List.forall_mem_cons.mp h
    cases ts with
    | nil => exact ht
    | cons u us => exact (ht.append hmark).append (ih hts)

theorem balanced_lines (hs : s.resolver.IsMarkless) {ls : List (List Span)}
    (h : ∀ t ∈ ls.flatten.flatMap Span.texts, '<' ∉ t) : IsBalanced (lines s.resolver ls) := by
  refine balanced_join (.plain (by decide)) fun t ht => ?_
  obtain ⟨ss, hss, rfl⟩ := List.mem_map.mp ht
  refine balanced_spans hs .none fun u hu => h u ?_
  obtain ⟨a, ha, hu⟩ := List.mem_flatMap.mp hu
  exact List.mem_flatMap.mpr ⟨a, List.mem_flatten.mpr ⟨ss, hss, ha⟩, hu⟩

/-- A rendering that adds a balanced text. -/
def Balances (f : Draft → Draft) : Prop := ∀ d, ∃ t, (f d).text = d.text ++ t ∧ IsBalanced t

namespace Balances

variable {f g : Draft → Draft}

theorem of_text_eq (h : ∀ d, (f d).text = d.text) : Balances f :=
  fun d => ⟨[], by simp [h], .nil⟩

theorem id : Balances fun d => d := of_text_eq fun _ => rfl

theorem write {t : Text} (h : IsBalanced t) : Balances (·.write t) := fun _ => ⟨t, rfl, h⟩

/-- A rendering goes on where a balanced text has been written. -/
theorem after (hg : Balances g) {d e : Draft} {t : Text} (he : e.text = d.text ++ t)
    (ht : IsBalanced t) : ∃ u, (g e).text = d.text ++ u ∧ IsBalanced u := by
  obtain ⟨u, hu, hbalanced⟩ := hg e
  exact ⟨t ++ u, by rw [hu, he, List.append_assoc], ht.append hbalanced⟩

theorem comp (hf : Balances f) (hg : Balances g) : Balances fun d => g (f d) := by
  intro d
  obtain ⟨t, ht, hbalanced⟩ := hf d
  exact hg.after ht hbalanced

/-- Elements may be opened before a rendering and closed after it. -/
theorem between {before after : Text} (inner : List Text)
    (hbefore : ∀ o, opened? o before = some (inner ++ o)) (hf : Balances f)
    (hafter : ∀ o, opened? (inner ++ o) after = some o) :
    Balances fun d => (f (d.write before)).write after := by
  intro d
  obtain ⟨t, ht, hbalanced⟩ := hf (d.write before)
  refine ⟨before ++ t ++ after, ?_, .between inner hbefore hbalanced hafter⟩
  simp [ht]

/-- What is rendered aside is balanced. -/
theorem capture (hf : Balances f) (d : Draft) : IsBalanced (d.capture f).1 := by
  obtain ⟨t, ht, hbalanced⟩ := hf { d with text := [] }
  show IsBalanced (f { d with text := [] }).text
  rw [ht]
  exact hbalanced

theorem foldl {f : α → Draft → Draft} (hf : ∀ a, Balances (f a)) (l : List α) :
    Balances fun d => l.foldl (fun d a => f a d) d := by
  induction l with
  | nil => exact .id
  | cons a l ih => exact (hf a).comp ih

end Balances

@[simp] theorem Draft.capture_text (f : Draft → Draft) (d : Draft) :
    (d.capture f).2.text = d.text := rfl

@[simp] theorem attr_text (name value : Text) (d : Draft) :
    (attr name value d).text = d.text ++ assignments [(name, escapeAttribute value)] := by
  simp [attr, Draft.writeAttribute, assignments, assignment]

theorem isAssignment_escape {name : Text} (hne : name ≠ [])
    (hletters : name.all Char.isAlpha = true) (value : Text) :
    IsAssignment (name, escapeAttribute value) :=
  ⟨hne, hletters, not_mem_escapeAttribute value⟩

theorem balances_caption (t : Option Text) : Balances (caption t) := by
  cases t with
  | none => exact .id
  | some t =>
    have htext : IsBalanced (escapeHtml t) := .plain (not_mem_escapeHtml t)
    exact Balances.between ["caption".toList] (fun _ => rfl) (.write htext) fun _ => rfl

theorem balances_rocket (s : Setting) (r : Rocket) : Balances (rocket s r) := by
  intro d
  let href := escapeAttribute (s.resolver.resolve r.link.address).href
  let before : Text := '<' :: (['a'] ++ assignments [("href".toList, href)] ++ ['>'])
  refine ⟨before ++ escapeHtml r.link.display ++ "</a><br>\n".toList, ?_, ?_⟩
  · simp [before, href, rocket, Draft.writeHtml, Draft.writeAttribute, assignments,
      assignment]
  · refine .between [['a']] (fun o => ?_) (.plain (not_mem_escapeHtml _)) fun _ => rfl
    rw [opened?_start (by decide) rfl]
    · rfl
    · intro a ha
      rw [List.mem_singleton.mp ha]
      exact isAssignment_escape (by decide) rfl _

theorem balances_launchpad (s : Setting) (rockets : List Rocket) :
    Balances (launchpad s rockets) :=
  .between ["div".toList] (fun _ => rfl) (.foldl (balances_rocket s) _) fun _ => rfl

theorem not_mem_toString (n : Nat) : '"' ∉ (toString n).toList ∧ '<' ∉ (toString n).toList := by
  have hdigits : (toString n).toList.all Char.isDigit = true := by
    rw [List.all_eq_true]
    intro c hc
    have hmem : c ∈ Nat.toDigits 10 n := by simpa [toString, Nat.repr] using hc
    exact Nat.isDigit_of_mem_toDigits (by decide) (by decide) hmem
  exact ⟨not_mem_of_all hdigits rfl, not_mem_of_all hdigits rfl⟩

/-- A cell is opened by its start tag, over however many columns. -/
theorem opened?_cellStart (header : Bool) (colspan : Nat) (o : List Text) :
    opened? o (cellStart header colspan) = some (cellTag header :: o) := by
  let spans : List (Text × Text) :=
    if 1 < colspan then [("colspan".toList, (toString colspan).toList)] else []
  have htext : cellStart header colspan =
      '<' :: (cellTag header ++ assignments spans ++ ['>']) := by
    unfold cellStart spans
    split
    · simp [assignments, assignment]
    · simp [assignments]
  have hspans : ∀ a ∈ spans, IsAssignment a := by
    intro a ha
    unfold spans at ha
    split at ha
    · rw [List.mem_singleton.mp ha]
      exact ⟨show "colspan".toList ≠ [] by decide, rfl, not_mem_toString colspan⟩
    · cases ha
  rw [htext]
  cases header with
  | false => exact opened?_start (by decide) rfl hspans o
  | true => exact opened?_start (by decide) rfl hspans o

/-- A value that may be absent, as an attribute. -/
def optionalAttribute (name : Text) (value : Option Text) : List (Text × Text) :=
  value.toList.map fun v => (name, escapeAttribute v)

@[simp] theorem attr?_text (name : Text) (value : Option Text) (d : Draft) :
    (attr? name value d).text = d.text ++ assignments (optionalAttribute name value) := by
  cases value with
  | none => simp [attr?, optionalAttribute, assignments]
  | some v => simp [attr?, optionalAttribute]

theorem isAssignment_optional {name : Text} (hne : name ≠ [])
    (hletters : name.all Char.isAlpha = true) (value : Option Text) :
    ∀ a ∈ optionalAttribute name value, IsAssignment a := by
  intro a ha
  obtain ⟨v, -, rfl⟩ := List.mem_map.mp ha
  exact isAssignment_escape hne hletters v

/-- The attributes of a picture in a gallery. -/
def pictureAttributes (source : Text) (width height alt : Option Text) : List (Text × Text) :=
  ("src".toList, escapeAttribute source) :: (optionalAttribute "width".toList width
    ++ optionalAttribute "height".toList height ++ optionalAttribute "alt".toList alt)

/-- Whatever the description of a picture is, it is escaped, and its tag ends after it. -/
theorem balanced_picture (source : Text) (width height alt : Option Text) :
    IsBalanced ("<img".toList ++ assignments (pictureAttributes source width height alt)
      ++ ">\n".toList) := by
  have hattributes : ∀ a ∈ pictureAttributes source width height alt, IsAssignment a := by
    have hwidth := isAssignment_optional (show "width".toList ≠ [] by decide) rfl width
    have hheight := isAssignment_optional (show "height".toList ≠ [] by decide) rfl height
    have halt := isAssignment_optional (show "alt".toList ≠ [] by decide) rfl alt
    exact List.forall_mem_cons.mpr ⟨isAssignment_escape (by decide) rfl source,
      List.forall_mem_append.mpr ⟨List.forall_mem_append.mpr ⟨hwidth, hheight⟩, halt⟩⟩
  have htag : IsBalanced ('<' :: ("img".toList
      ++ assignments (pictureAttributes source width height alt) ++ ['>'])) :=
    opened?_start (by decide) rfl hattributes
  have hline : IsBalanced ['\n'] := .plain (by decide)
  simpa using htag.append hline

/-- A picture whose description `f` renders aside. -/
theorem balances_picture (f : Draft → Draft) (source : Text) (width height : Option Text) :
    Balances fun d =>
      let (alt, d) := (attr? "height".toList height (attr? "width".toList width
        (attr "src".toList source (d.write "<img".toList)))).capture f
      (attr? "alt".toList (nonempty? (trim alt)) d).write ">\n".toList := by
  intro d
  let e := attr? "height".toList height (attr? "width".toList width
    (attr "src".toList source (d.write "<img".toList)))
  refine ⟨_, ?_, balanced_picture source width height (nonempty? (trim (e.capture f).1))⟩
  simp [e, pictureAttributes, assignments]

/-- No string of some blocks can start a tag. -/
abbrev AreMarkless (bs : List Block) : Prop := ∀ b ∈ bs, b.IsMarkless

theorem balanced_code {language : Option Text} {contents : Text}
    (h : (Block.code language contents).IsMarkless) : IsBalanced (code language contents) := by
  obtain ⟨hcontents, hlanguage⟩ := List.forall_mem_cons.mp h
  have hexplicit : '<' ∉ (Block.explicitLanguage? language).getD [] := by
    cases hl : Block.explicitLanguage? language with
    | none => simp
    | some l =>
      obtain ⟨hmem, -⟩ := Option.filter_eq_some_iff.mp hl
      exact hlanguage l (by simp [hmem])
  apply IsBalanced.plain
  unfold code
  split
  · simp [hcontents, hexplicit]
  · simp [hcontents, hexplicit]

theorem balanced_placeholder : IsBalanced placeholder := by
  have htext : placeholder =
      "<!--".toList ++ " Transclusion: transclusion not supported in Markdown ".toList
        ++ "-->".toList ++ ['\n'] := by
    decide
  rw [htext]
  exact IsBalanced.append (.comment (by simp)) (.plain (by simp))

theorem balanced_unknown {kind : Text} (h : '<' ∉ kind) :
    IsBalanced ("<!-- Unknown block type: ".toList ++ kind ++ " -->\n".toList) := by
  have htext : "<!-- Unknown block type: ".toList ++ kind ++ " -->\n".toList = "<!--".toList
      ++ (" Unknown block type: ".toList ++ kind ++ [' ']) ++ "-->".toList ++ ['\n'] := by
    simp
  rw [htext]
  exact IsBalanced.append (.comment (by simp [h])) (.plain (by simp))

mutual

/-- Whatever a block is, and whatever is open around it, it leaves open what it found open. -/
theorem block_balances (hs : s.resolver.IsMarkless) (depth : Nat) : (b : Block) →
    AreMarkless (b :: b.inside) → Balances (block s depth b)
  | .heading level ls, h => by
    obtain ⟨hb, -⟩ := List.forall_mem_cons.mp h
    have hmarks : IsBalanced (List.replicate level '#' ++ [' ']) := .plain (by simp)
    intro d
    rw [block]
    exact Balances.write ((hmarks.append (balanced_lines hs hb)).append (.plain (by decide))) d
  | .paragraph ls, h => by
    obtain ⟨hb, -⟩ := List.forall_mem_cons.mp h
    intro d
    rw [block]
    exact Balances.write ((balanced_lines hs hb).append (.plain (by decide))) d
  | .code language contents, h => by
    obtain ⟨hb, -⟩ := List.forall_mem_cons.mp h
    intro d
    rw [block]
    exact Balances.write (balanced_code hb) d
  | .list marker items, h => by
    obtain ⟨-, hitems⟩ := List.forall_mem_cons.mp h
    intro d
    rw [block]
    exact list_balances hs depth marker items hitems d
  | .rule, _ => by
    intro d
    rw [block]
    exact Balances.write (.plain (by decide)) d
  | .quote contents, h => by
    obtain ⟨-, hcontents⟩ := List.forall_mem_cons.mp h
    intro d
    rw [block]
    exact quoted_balances hs depth contents hcontents d
  | .table title [], _ => by
    intro d
    simp only [block]
    exact Balances.between ["table".toList] (fun _ => rfl) (balances_caption title) (fun _ => rfl) d
  | .table title (row :: rest), h => by
    obtain ⟨-, hrows⟩ := List.forall_mem_cons.mp h
    obtain ⟨hrow, hrest⟩ := List.forall_mem_append.mp hrows
    have hbody : ∀ {f}, Balances f → Balances fun d =>
        (f (d.write "<tbody>\n".toList)).write "</tbody>\n".toList := fun hf =>
      .between ["tbody".toList] (fun _ => rfl) hf fun _ => rfl
    have hhead : Balances fun d => (cells s row (d.write "<thead>\n<tr>".toList)).write
        "</tr>\n</thead>\n".toList :=
      .between ["tr".toList, "thead".toList] (fun _ => rfl) (cells_balances hs row hrow)
        fun _ => rfl
    have htable : ∀ {f}, Balances f → Balances fun d =>
        (f (caption title (d.write "<table>\n".toList))).write "</table>\n".toList := fun hf =>
      .between ["table".toList] (fun _ => rfl) ((balances_caption title).comp hf) fun _ => rfl
    intro d
    simp only [block]
    split
    · split
      · exact htable hhead d
      · exact htable (hhead.comp (hbody (bodyRows_balances hs rest hrest))) d
    · exact htable (hbody (bodyRows_balances hs (row :: rest) hrows)) d
  | .image _ [], _ => by
    intro d
    simp only [block]
    exact Balances.between ["div".toList] (fun _ => rfl) (images_balances hs [] nofun)
      (fun _ => rfl) d
  | .image _ [⟨target, width, height, description⟩], h => by
    obtain ⟨hb, hdescription⟩ := List.forall_mem_cons.mp h
    have htarget : '<' ∉ target := hb target (by simp [texts])
    have hsource := hs.imageSource target htarget
    obtain ⟨hdescription, -⟩ := List.forall_mem_append.mp hdescription
    intro d
    simp only [block]
    have halt := ((blocks_balances hs 0 description hdescription).capture d).trim
    have hlink : IsBalanced ("](".toList ++ s.resolver.imageSource target ++ ")\n".toList) :=
      .plain (by simp [hsource])
    refine ⟨"![".toList ++ _ ++ _, ?_, .append (.append (.plain (by decide)) halt) hlink⟩
    simp
  | .image _ (e :: f :: entries), h => by
    obtain ⟨-, hentries⟩ := List.forall_mem_cons.mp h
    intro d
    simp only [block]
    exact Balances.between ["div".toList] (fun _ => rfl)
      (images_balances hs (e :: f :: entries) hentries) (fun _ => rfl) d
  | .launchpad rockets, _ => by
    intro d
    rw [block]
    exact balances_launchpad s rockets d
  | .transclusion target, _ => by
    intro d
    rw [block]
    exact Balances.comp (.of_text_eq fun _ => rfl) (.write balanced_placeholder) d
  | .unknown kind, h => by
    obtain ⟨hb, -⟩ := List.forall_mem_cons.mp h
    intro d
    rw [block]
    exact Balances.write (balanced_unknown (hb kind List.mem_cons_self)) d

theorem blocks_balances (hs : s.resolver.IsMarkless) (depth : Nat) : (bs : List Block) →
    AreMarkless (preorder bs) → Balances (blocks s depth bs)
  | [], _ => .of_text_eq fun _ => by rw [blocks]
  | b :: bs, h => by
    obtain ⟨hb, hbs⟩ := List.forall_mem_append.mp h
    intro d
    rw [blocks]
    exact (block_balances hs depth b hb).comp (blocks_balances hs depth bs hbs) d

theorem list_balances (hs : s.resolver.IsMarkless) (depth : Nat) (marker : Marker) :
    (items : List (List Block)) → AreMarkless (preorderItems items) →
    Balances (list s depth marker items)
  | [], _ => .of_text_eq fun _ => by rw [list]
  | item :: items, h => by
    obtain ⟨hitem, hitems⟩ := List.forall_mem_append.mp h
    have hindent : IsBalanced (s.indentation depth) := .plain (by simp [Setting.indentation])
    have hmarker : IsBalanced (listMarker marker) := .plain (by cases marker <;> decide)
    have hfirst := (Balances.write hindent).comp (.write hmarker)
    intro d
    rw [list]
    exact ((hfirst.comp (itemBlocks_balances hs depth true item hitem)).comp
      (list_balances hs depth marker items hitems)) d

theorem itemBlocks_balances (hs : s.resolver.IsMarkless) (depth : Nat) (isOpen : Bool) :
    (bs : List Block) → AreMarkless (preorder bs) → Balances (itemBlocks s depth isOpen bs)
  | [], _ => by
    intro d
    rw [itemBlocks]
    split
    · exact Balances.write (.plain (by decide)) d
    · exact Balances.id d
  | b :: bs, h => by
    obtain ⟨hb, hbs⟩ := List.forall_mem_append.mp h
    have hline : Balances fun d => if isOpen then d.write ['\n'] else d := by
      cases isOpen with
      | false => exact .id
      | true => exact .write (.plain (by decide))
    have hrest := itemBlocks_balances hs depth false bs hbs
    intro d
    rw [itemBlocks]
    split
    · exact ((hline.comp (block_balances hs (depth + 1) b hb)).comp hrest) d
    · exact ((block_balances hs depth b hb).comp hrest) d

theorem quoted_balances (hs : s.resolver.IsMarkless) (depth : Nat) : (bs : List Block) →
    AreMarkless (preorder bs) → Balances (quoted s depth bs)
  | [], _ => .of_text_eq fun _ => by rw [quoted]
  | b :: bs, h => by
    obtain ⟨hb, hbs⟩ := List.forall_mem_append.mp h
    intro d
    simp only [quoted]
    -- Only line feeds are dropped, so the last tag keeps its `>`.
    have hinner := (block_balances hs depth b hb).capture d
    have htight := hinner.dropEndWhile (p := (· == '\n')) rfl rfl
    exact (quoted_balances hs depth bs hbs).after (t := ['>', ' '] ++ _ ++ ['\n']) (by simp)
      (.between [] (fun _ => rfl) htight fun _ => rfl)

theorem bodyRows_balances (hs : s.resolver.IsMarkless) : (rows : List (List (Cell (List Block)))) →
    AreMarkless (preorderRows rows) → Balances (bodyRows s rows)
  | [], _ => .of_text_eq fun _ => by rw [bodyRows]
  | row :: rows, h => by
    obtain ⟨hrow, hrows⟩ := List.forall_mem_append.mp h
    have hfirst : Balances fun d => (cells s row (d.write "<tr>".toList)).write "</tr>\n".toList :=
      .between ["tr".toList] (fun _ => rfl) (cells_balances hs row hrow) fun _ => rfl
    intro d
    rw [bodyRows]
    exact hfirst.comp (bodyRows_balances hs rows hrows) d

theorem cells_balances (hs : s.resolver.IsMarkless) : (row : List (Cell (List Block))) →
    AreMarkless (preorderCells row) → Balances (cells s row)
  | [], _ => .of_text_eq fun _ => by rw [cells]
  | ⟨contents, colspan, header⟩ :: row, h => by
    obtain ⟨hcontents, hrow⟩ := List.forall_mem_append.mp h
    have hend : ∀ o, opened? ([cellTag header] ++ o) (['<', '/'] ++ cellTag header ++ ['>']) =
        some o := by
      cases header <;> exact fun _ => rfl
    intro d
    simp only [cells]
    have hinner := ((blocks_balances hs 0 contents hcontents).capture
      (d.write (cellStart header colspan))).trim
    exact (cells_balances hs row hrow).after (by simp)
      (.between [cellTag header] (opened?_cellStart header colspan) hinner hend)

theorem images_balances (hs : s.resolver.IsMarkless) :
    (entries : List (ImageEntry (List Block))) → AreMarkless (preorderEntries entries) →
    Balances (images s entries)
  | [], _ => .of_text_eq fun _ => by rw [images]
  | ⟨target, width, height, description⟩ :: entries, h => by
    obtain ⟨-, hentries⟩ := List.forall_mem_append.mp h
    intro d
    simp only [images]
    exact (balances_picture (blocks s 0 description) _ width height).comp
      (images_balances hs entries hentries) d

end

/-- The blank lines between blocks are in no element. -/
theorem separated_balances (hs : s.resolver.IsMarkless) {bs : List Block}
    (h : AreMarkless (preorder bs)) : Balances (separated s bs) := by
  induction bs with
  | nil => exact .id
  | cons b bs ih =>
    obtain ⟨hb, hbs⟩ := List.forall_mem_append.mp h
    have hfirst := block_balances hs 0 b hb
    cases bs with
    | nil => exact hfirst
    | cons c cs => exact (hfirst.comp (.write (.plain (by decide)))).comp (ih hbs)

/-- Where no string of a document has a `<` in it, every `<` of its Markdown starts a whole tag or
comment, and each element that is opened is closed in turn. -/
theorem document_balanced (hs : s.resolver.IsMarkless) {bs : List Block}
    (h : ∀ b ∈ preorder bs, b.IsMarkless) : opened? [] (document s bs).text = some [] := by
  obtain ⟨t, ht, hbalanced⟩ := separated_balances hs h .empty
  show opened? [] (separated s bs .empty).text = some []
  rw [ht]
  exact hbalanced []

/-- A table under a title, with a table in a cell and a styled gallery in another. -/
def catalogue : List Block :=
  [.table (some "a & b".toList)
    [[⟨[.paragraph [[.text "name".toList]]], 2, true⟩],
      [⟨[.table none [[⟨[.rule], 1, false⟩]]], 1, false⟩,
        ⟨[.image none
          [⟨"x".toList, some "10".toList, none,
              [.paragraph [[.toggle .mark, .toggle .super, .text "n".toList, .toggle .mark,
                .link ⟨"y".toList, none⟩]]]⟩,
            ⟨"z".toList, none, none, [.unknown "chart".toList]⟩]], 1, false⟩]],
    .quote [.launchpad [⟨⟨"x".toList, some "ex".toList⟩, false⟩], .transclusion "t".toList]]

theorem document_balanced_catalogue :
    (Resolver.ofTable [("x".toList, ⟨"/x\"".toList, none⟩)] []).IsMarkless ∧
    (∀ b ∈ preorder catalogue, b.IsMarkless) ∧
    opened? [] (document ⟨.ofTable [("x".toList, ⟨"/x\"".toList, none⟩)] [], 4⟩ catalogue).text =
      some [] := by
  have hs : (Resolver.ofTable [("x".toList, ⟨"/x\"".toList, none⟩)] []).IsMarkless :=
    Resolver.isMarkless_ofTable (by decide) []
  have hclean : ∀ b ∈ preorder catalogue, b.IsMarkless := by decide
  exact ⟨hs, hclean, document_balanced hs hclean⟩

end Export
end MarkupBridge
