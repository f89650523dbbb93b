import MarkupBridge.Markdown.Character
import MarkupBridge.Proofs.RoundTrip
import MarkupBridge.Proofs.Tokens

namespace MarkupBridge

namespace Wiki
open Text

namespace Styles

/-- The styles of a list in nesting order. -/
def of (ss : List Style) : Styles := ⟨Style.nesting.filter ss.contains⟩

@[simp] theorem isOn_of (ss : List Style) (k : Style) : (of ss).isOn k = ss.contains k :=
  isOn_filter ss.contains k

theorem of_congr {ss ts : List Style} (h : ∀ k, k ∈ ss ↔ k ∈ ts) : of ss = of ts := by
  have hcontains : ss.contains = ts.contains := by
    funext k
    rw [Bool.eq_iff_iff, List.contains_iff_mem, List.contains_iff_mem]
    exact h k
  rw [of, of, hcontains]

theorem toggle_of {ss ts : List Style} {k : Style}
    (h : ∀ x, ((x == k) != ss.contains x) = ts.contains x) : (of ss).toggle k = of ts := by
  have hcontains : (fun x => (x == k) != (of ss).isOn x) = ts.contains := by
    funext x
    rw [isOn_of, h]
  rw [toggle, hcontains, of]

/-- A style that is not in force is turned on. -/
theorem toggle_of_not_mem {ss : List Style} {k : Style} (h : k ∉ ss) :
    (of ss).toggle k = of (k :: ss) := by
  refine toggle_of fun x => ?_
  by_cases hx : x = k
  · simp [hx, h]
  · simp [hx, beq_eq_false_iff_ne.mpr hx]

/-- And turned off again. -/
theorem toggle_of_cons {ss : List Style} {k : Style} (h : k ∉ ss) :
    (of (k :: ss)).toggle k = of ss := by
  refine toggle_of fun x => ?_
  by_cases hx : x = k
  · simp [hx, h]
  · simp [hx, beq_eq_false_iff_ne.mpr hx]

end Styles

/-- What is to be seen at a place in a line, with the styles in force there. -/
inductive Shown where
  | char (c : Char) (styles : Styles)
  | link (l : Link) (styles : Styles)
deriving DecidableEq, Repr

/-- What is seen of spans that begin where some styles are in force. -/
def Span.shown (styles : Styles) : List Span → List Shown
  | [] => []
  | .text t :: ss => t.map (Shown.char · styles) ++ shown styles ss
  | .toggle k :: ss => shown (styles.toggle k) ss
  | .link l :: ss => .link l styles :: shown styles ss

def Token.shown (styles : Styles) : List Token → List Shown
  | [] => []
  | .char c :: ts => .char c styles :: shown styles ts
  | .toggle k :: ts => shown (styles.toggle k) ts
  | .link l :: ts => .link l styles :: shown styles ts

/-- Gathering characters into texts changes nothing that is seen. -/
theorem Span.shown_gather (styles : Styles) (ts : List Token) :
    shown styles (gather ts) = Token.shown styles ts := by
  induction ts generalizing styles with
  | nil => rfl
  | cons t ts ih =>
    cases t with
    | char c =>
      have hchar : shown styles (gather (.char c :: ts)) =
          .char c styles :: shown styles (gather ts) := by
        rw [gather]
        cases gather ts with
        | nil => rfl
        | cons s ss => cases s <;> rfl
      rw [hchar, ih]
      rfl
    | toggle k => exact ih (styles.toggle k)
    | link l => exact congrArg (Shown.link l styles :: ·) (ih styles)

theorem Token.shown_chars (styles : Styles) (t : Text) (ts : List Token) :
    shown styles (t.map Token.char ++ ts) = t.map (Shown.char · styles) ++ shown styles ts := by
  induction t with
  | nil => rfl
  | cons c t ih => exact congrArg (Shown.char c styles :: ·) ih

/-- In a line that is calm after it, a text shows what it is said to and leaves other styles in
force than it found. -/
def Shows (before after : Styles) (t : Text) (out : List Shown) : Prop :=
  ∀ rest, Calm rest → Calm (t ++ rest) ∧ ∀ prev, ∃ last,
    Token.shown before (tokens prev false (t ++ rest)) =
      out ++ Token.shown after (tokens last false rest)

namespace Shows

variable {s s₁ s₂ : Styles} {t u : Text} {out more : List Shown}

theorem nil (s : Styles) : Shows s s [] [] :=
  fun _ hrest => ⟨hrest, fun prev => ⟨prev, rfl⟩⟩

theorem append (ht : Shows s s₁ t out) (hu : Shows s₁ s₂ u more) :
    Shows s s₂ (t ++ u) (out ++ more) := by
  intro rest hrest
  obtain ⟨hcalm, hu⟩ := hu rest hrest
  obtain ⟨hcalm, ht⟩ := ht _ hcalm
  rw [List.append_assoc]
  refine ⟨hcalm, fun prev => ?_⟩
  obtain ⟨last, ht⟩ := ht prev
  obtain ⟨last, hu⟩ := hu last
  exact ⟨last, by rw [ht, hu, List.append_assoc]⟩

/-- Characters that stand alone are shown as they are. -/
theorem chars (s : Styles) {t : Text} (h : ∀ c ∈ t, standsAlone c = true ∧ c ≠ ':') :
    Shows s s t (t.map (Shown.char · s)) := by
  induction t with
  | nil => exact nil s
  | cons c t ih =>
    obtain ⟨hc, hcolon⟩ := h c List.mem_cons_self
    have hone : Shows s s [c] [.char c s] := by
      intro rest hrest
      have hcalm := hrest.cons hcolon
      refine ⟨hcalm, fun prev => ⟨some c, ?_⟩⟩
      show Token.shown s (tokens prev false (c :: rest)) = _
      rw [tokens_of_standsAlone hc hcalm]
      rfl
    exact hone.append (ih fun d hd => h d (List.mem_cons_of_mem c hd))

/-- A delimiter toggles its style. -/
theorem delimiter (s : Styles) {k : Style} (hk : k ≠ .mono) :
    Shows s (s.toggle k) k.delimiter [] := by
  intro rest hrest
  have hcolon : ':' ∉ k.delimiter := by cases k <;> decide
  have hcalm := Calm.append hcolon hrest
  refine ⟨hcalm, fun prev => ⟨k.delimiter.getLast?, ?_⟩⟩
  obtain ⟨c, t, hdelimiter, hslash, hbracket⟩ :
      ∃ c t, k.delimiter = c :: t ∧ c ≠ '\\' ∧ c ≠ '[' := by
    cases k <;> exact ⟨_, _, rfl, by decide, by decide⟩
  have hread : Piece.delimiter? (k.delimiter ++ rest) = some k := by
    cases k <;> rfl
  have hflips : Piece.flips false (.toggle k) = false := by
    cases k <;> first | rfl | exact absurd rfl hk
  rw [hdelimiter, List.cons_append] at hcalm hread
  have hfirst : Piece.first prev false c (t ++ rest) = ⟨k.delimiter, .toggle k⟩ := by
    unfold Piece.first
    rw [if_neg Bool.false_ne_true, if_neg hslash, Piece.bracketed?_of_ne hbracket,
      Piece.address?_of_calm hcalm, hread]
  have htokens := tokens_cons hfirst rest (by rw [hdelimiter]; rfl)
  rw [hflips] at htokens
  rw [hdelimiter, List.cons_append, htokens, ← hdelimiter]
  rfl

/-- Between two delimiters of a style that is not in force a text is shown in that style. -/
theorem enclosed {ss : List Style} {k : Style} (hk : k ≠ .mono) (hss : k ∉ ss)
    (h : Shows (.of (k :: ss)) (.of (k :: ss)) t out) :
    Shows (.of ss) (.of ss) (k.delimiter ++ t ++ k.delimiter) out := by
  have hopen := delimiter (.of ss) hk
  have hclose := delimiter (.of (k :: ss)) hk
  rw [Styles.toggle_of_not_mem hss] at hopen
  rw [Styles.toggle_of_cons hss] at hclose
  have hall := (hopen.append h).append hclose
  rwa [List.nil_append, List.append_nil] at hall

end Shows

theorem tokens_mono {t : Text} (h : '\x60' ∉ t) (prev : Option Char) (rest : Text) :
    tokens prev true (t ++ '\x60' :: rest) =
      t.map Token.char ++ .toggle .mono :: tokens (some '\x60') false rest := by
  induction t generalizing prev with
  | nil => exact tokens_cons (p := ⟨['\x60'], .toggle .mono⟩) rfl rest rfl
  | cons c t ih =>
    have hc : c ≠ '\x60' := Ne.symm (List.ne_of_not_mem_cons h)
    have hfirst : Piece.first prev true c (t ++ '\x60' :: rest) = ⟨[c], .char c⟩ := by
      unfold Piece.first
      rw [if_pos rfl, if_neg hc]
    have ih := ih (List.not_mem_of_not_mem_cons h) (some c)
    rw [List.cons_append, tokens_cons hfirst (t ++ '\x60' :: rest) rfl]
    exact congrArg (Token.char c :: ·) ih

/-- In monospace every character is shown as it is. -/
theorem Shows.mono {ss : List Style} (hss : .mono ∉ ss) {t : Text} (h : '\x60' ∉ t) :
    Shows (.of ss) (.of ss) (['\x60'] ++ t ++ ['\x60'])
      (t.map (Shown.char · (.of (.mono :: ss)))) := by
  intro rest _
  have hcalm : ∀ u, Calm ('\x60' :: u) := calm_of_not_inScheme (by decide) (by decide)
  refine ⟨hcalm _, fun prev => ⟨some '\x60', ?_⟩⟩
  have hfirst : Piece.first prev false '\x60' (t ++ '\x60' :: rest) =
      ⟨['\x60'], .toggle .mono⟩ := by
    unfold Piece.first
    rw [if_neg Bool.false_ne_true, if_neg (by decide), Piece.bracketed?_of_ne (by decide),
      Piece.address?_of_calm (hcalm _)]
    rfl
  have htext : ['\x60'] ++ t ++ ['\x60'] ++ rest = '\x60' :: (t ++ '\x60' :: rest) := by simp
  rw [htext, tokens_cons hfirst (t ++ '\x60' :: rest) rfl]
  show Token.shown ((Styles.of ss).toggle .mono) (tokens (some '\x60') true _) = _
  rw [tokens_mono h, Token.shown_chars, Styles.toggle_of_not_mem hss, Token.shown,
    Styles.toggle_of_cons hss]

/-- A link without a bracket in it is read up to the brackets that close it. -/
theorem Shows.link (s : Styles) {inside : Text} (h : ']' ∉ inside)
    (haddress : (Link.read inside).address ≠ []) :
    Shows s s (['[', '['] ++ inside ++ [']', ']']) [.link (Link.read inside) s] := by
  intro rest _
  have hcalm : ∀ t, Calm ('[' :: t) := calm_of_not_inScheme (by decide) (by decide)
  refine ⟨hcalm _, fun prev => ⟨some ']', ?_⟩⟩
  have htext : ['[', '['] ++ inside ++ [']', ']'] ++ rest =
      '[' :: ('[' :: (inside ++ [']', ']'] ++ rest)) := by simp
  have hbracketed : Piece.bracketed? ('[' :: '[' :: (inside ++ [']', ']'] ++ rest)) =
      some (inside, rest) := by
    have hafter : after? ['[', '['] ('[' :: '[' :: (inside ++ [']', ']'] ++ rest)) =
        some (inside ++ [']', ']'] ++ rest) := after?_eq_some_iff.mpr rfl
    rw [Piece.bracketed?, hafter, Option.bind_some, cut?_append h]
    exact Option.filter_some_pos (by simpa using haddress)
  have hfirst : Piece.first prev false '[' ('[' :: (inside ++ [']', ']'] ++ rest)) =
      ⟨['[', '['] ++ inside ++ [']', ']'], .link (Link.read inside)⟩ := by
    unfold Piece.first
    rw [if_neg Bool.false_ne_true, if_neg (by decide), hbracketed]
  have hlast : (['[', '['] ++ inside ++ [']', ']']).getLast? = some ']' := by
    rw [List.getLast?_append]
    rfl
  have htokens := tokens_cons hfirst rest htext.symm
  rw [hlast] at htokens
  rw [htext, htokens]
  rfl

end Wiki

namespace Import
open Text Markdown Wiki

/-- All but ASCII punctuation: letters, digits and blanks of any script among it. -/
def isWordChar (c : Char) : Bool := !isAsciiPunctuation c

theorem standsAlone_of_isWordChar {c : Char} (hc : isWordChar c = true) :
    standsAlone c = true ∧ c ≠ ':' := by
  refine ⟨standsAlone_of_all (by decide) hc, ?_⟩
  rintro rfl
  cases hc

/-- Destinations that brackets can hold. -/
def IsDestination (url : Text) : Prop :=
  url ≠ [] ∧ trim url = url ∧ '|' ∉ url ∧ '[' ∉ url ∧ ']' ∉ url

instance : DecidablePred IsDestination := fun _ => inferInstanceAs (Decidable (_ ∧ _))

/-- The texts that are shown for links. -/
def IsCaption (t : Text) : Prop := trim t = t ∧ t.all isWordChar = true

instance : DecidablePred IsCaption := fun _ => inferInstanceAs (Decidable (_ ∧ _))

mutual

/-- Phrases inside the styles of `outer`, none of which is in force twice. -/
def isPhrase (outer : List Style) : Node → Bool
  | .text t => t.all isWordChar
  | .inlineCode t => !t.contains '\x60'
  | .emphasis cs => !outer.contains .italic && arePhrases (.italic :: outer) cs
  | .strong cs => !outer.contains .bold && arePhrases (.bold :: outer) cs
  | .delete cs => !outer.contains .strike && arePhrases (.strike :: outer) cs
  | .link r [.text t] => IsDestination r.url && IsCaption t
  | _ => false

def arePhrases (outer : List Style) : List Node → Bool
  | [] => true
  | n :: ns => isPhrase outer n && arePhrases outer ns

end

/-- The link a reader of the wiki finds: the text counts where it says more than the address. -/
def wikiLink (url text : Text) : Link :=
  ⟨url, if text.isEmpty || text == url then none else some text⟩

mutual

/-- What is to be seen of a phrase inside the styles of `outer`. -/
def shown (outer : List Style) : Node → List Shown
  | .text t => t.map (Shown.char · (.of outer))
  | .inlineCode t => t.map (Shown.char · (.of (.mono :: outer)))
  | .emphasis cs => shownAll (.italic :: outer) cs
  | .strong cs => shownAll (.bold :: outer) cs
  | .delete cs => shownAll (.strike :: outer) cs
  | .link r cs => [.link (wikiLink r.url (Node.plainAll cs)) (.of outer)]
  | _ => []

def shownAll (outer : List Style) : List Node → List Shown
  | [] => []
  | n :: ns => shown outer n ++ shownAll outer ns

end

/-- A rendering that appends the same text to every draft, and what that text shows. -/
def Renders (outer : List Style) (f : Draft → Draft) (out : List Shown) : Prop :=
  ∃ t, (∀ d, f d = d.write t) ∧ Shows (.of outer) (.of outer) t out

namespace Renders

variable {outer : List Style} {f g : Draft → Draft} {out more : List Shown}

theorem comp (hf : Renders outer f out) (hg : Renders outer g more) :
    Renders outer (fun d => g (f d)) (out ++ more) := by
  obtain ⟨t, hf, ht⟩ := hf
  obtain ⟨u, hg, hu⟩ := hg
  refine ⟨t ++ u, fun d => ?_, ht.append hu⟩
  show g (f d) = _
  rw [hf, hg, Draft.write_write]

theorem enclosed {k : Style} (hk : k ≠ .mono) (houter : k ∉ outer)
    (h : Renders (k :: outer) f out) :
    Renders outer (fun d => (f (d.write k.delimiter)).write k.delimiter) out := by
  obtain ⟨t, hf, ht⟩ := h
  refine ⟨_, fun d => ?_, ht.enclosed hk houter⟩
  show (f (d.write k.delimiter)).write k.delimiter = _
  rw [hf, Draft.write_write, Draft.write_write, List.append_assoc]

end Renders

theorem read_link {url text : Text} (hurl : IsDestination url) (htext : IsCaption text) :
    Link.read (url ++ if text.isEmpty || text == url then [] else " | ".toList ++ text) =
      wikiLink url text := by
  obtain ⟨-, htrim, hbar, -⟩ := hurl
  unfold wikiLink
  split
  · rw [List.append_nil, Link.read, cutChar?_of_not_mem hbar, htrim]
  · next hne =>
    have hnonempty : text.isEmpty = false := by
      cases text with
      | nil => exact absurd rfl hne
      | cons c t => rfl
    have hcut : cutChar? '|' (url ++ (" | ".toList ++ text)) =
        some (url ++ [' '], ' ' :: text) := by
      have hspace : '|' ∉ url ++ [' '] := by simp [hbar]
      rw [← cutChar?_append hspace]
      simp
    rw [Link.read, hcut]
    simp only [trim_concat (c := ' ') (by decide), trim_cons (c := ' ') (by decide), htrim, htext.1,
      nonempty?, hnonempty, Bool.false_eq_true, if_false]

theorem renders_link (outer : List Style) {r : Resource} {t : Text} (hurl : IsDestination r.url)
    (htext : IsCaption t) :
    Renders outer (inline (.link r [.text t])) [.link (wikiLink r.url t) (.of outer)] := by
  have hread := read_link hurl htext
  have hinside : ']' ∉ r.url ++ if t.isEmpty || t == r.url then [] else " | ".toList ++ t := by
    intro hm
    rcases List.mem_append.mp hm with hm | hm
    · exact hurl.2.2.2.2 hm
    split at hm
    · cases hm
    rcases List.mem_append.mp hm with hm | hm
    · exact absurd hm (by decide)
    · exact absurd (List.all_eq_true.mp htext.2 ']' hm) (by decide)
  have hlink := Shows.link (.of outer) hinside (by rw [hread]; exact hurl.1)
  rw [hread] at hlink
  refine ⟨_, fun d => ?_, hlink⟩
  show link r.url t d = _
  rw [link, List.append_assoc ['[', '[']]

theorem renders_emphasis {outer : List Style} {cs : List Node} (houter : .italic ∉ outer)
    (hcs : Renders (.italic :: outer) (inlines cs) (shownAll (.italic :: outer) cs))
    (hinner : ∀ ds, cs = [.strong ds] → .bold ∉ outer ∧
      Renders (.bold :: .italic :: outer) (inlines ds) (shownAll (.bold :: .italic :: outer) ds)) :
    Renders outer (inline (.emphasis cs)) (shownAll (.italic :: outer) cs) := by
  -- Strong text alone inside emphasis is written with the strong delimiters outside.
  by_cases h : ∃ ds, cs = [.strong ds]
  · obtain ⟨ds, rfl⟩ := h
    obtain ⟨hbold, hds⟩ := hinner ds rfl
    have hswap : Styles.of (.bold :: .italic :: outer) = .of (.italic :: .bold :: outer) := by
      refine Styles.of_congr fun k => ?_
      simp only [List.mem_cons]
      exact or_left_comm
    have hitalic : .italic ∉ Style.bold :: outer := by simp [houter]
    unfold Renders at hds
    rw [hswap] at hds
    have hall := (Renders.enclosed (by decide) hitalic hds).enclosed (by decide) hbold
    have hinline : inline (.emphasis [.strong ds]) = fun d =>
        (((inlines ds ((d.write ['*', '*']).write ['/', '/'])).write ['/', '/'])).write
          ['*', '*'] := by
      funext d
      rw [inline, Draft.write_write, Draft.write_write]
      rfl
    have hshown : shownAll (.italic :: outer) [.strong ds] =
        shownAll (.bold :: .italic :: outer) ds := by
      rw [shownAll, shownAll, List.append_nil, shown]
    rw [hinline, hshown]
    exact hall
  · have hinline : inline (.emphasis cs) = fun d =>
        (inlines cs (d.write ['/', '/'])).write ['/', '/'] :=
      funext fun d => inline.eq_5 d cs fun ds he => h ⟨ds, he⟩
    rw [hinline]
    exact hcs.enclosed (by decide) houter

theorem eq_of_isPhrase_link {outer : List Style} {r : Resource} {cs : List Node}
    (h : isPhrase outer (.link r cs) = true) :
    ∃ t, cs = [.text t] ∧ IsDestination r.url ∧ IsCaption t := by
  unfold isPhrase at h
  split at h
  case h_6 t he =>
    cases he
    rw [Bool.and_eq_true, decide_eq_true_iff, decide_eq_true_iff] at h
    exact ⟨t, rfl, h⟩
  case h_7 => cases h
  all_goals cases ‹Node.link r cs = _›

mutual

/-- A phrase is written as a text that shows what the phrase does, and leaves the styles in force
as it found them. -/
theorem renders_phrase {outer : List Style} (hmono : .mono ∉ outer) :
    (n : Node) → isPhrase outer n = true → Renders outer (inline n) (shown outer n)
  | .text t, h => by
    have ht : ∀ c ∈ t, isWordChar c = true := List.all_eq_true.mp h
    exact ⟨t, fun _ => rfl, Shows.chars _ fun c hc => standsAlone_of_isWordChar (ht c hc)⟩
  | .inlineCode t, h => by
    have ht : '\x60' ∉ t := by simpa [isPhrase] using h
    exact ⟨_, fun _ => rfl, Shows.mono hmono ht⟩
  | .emphasis cs, h => by
    obtain ⟨houter, hcs⟩ := Bool.and_eq_true_iff.mp h
    have hitalic : .italic ∉ outer := by simpa using houter
    refine renders_emphasis hitalic (renders_phrases (by simp [hmono]) cs hcs) fun ds hds => ?_
    subst hds
    have hstrong : isPhrase (.italic :: outer) (.strong ds) = true :=
      (Bool.and_eq_true_iff.mp hcs).1
    obtain ⟨hinner, hds⟩ := Bool.and_eq_true_iff.mp hstrong
    exact ⟨by simpa using hinner, renders_phrases (by simp [hmono]) ds hds⟩
  | .strong cs, h => by
    obtain ⟨houter, hcs⟩ := Bool.and_eq_true_iff.mp h
    exact (renders_phrases (by simp [hmono]) cs hcs).enclosed (by decide) (by simpa using houter)
  | .delete cs, h => by
    obtain ⟨houter, hcs⟩ := Bool.and_eq_true_iff.mp h
    exact (renders_phrases (by simp [hmono]) cs hcs).enclosed (by decide) (by simpa using houter)
  | .link r cs, h => by
    obtain ⟨t, rfl, hurl, ht⟩ := eq_of_isPhrase_link h
    have hplain : Node.plainAll [.text t] = t := List.append_nil t
    rw [shown, hplain]
    exact renders_link outer hurl ht
  | .root _, h | .paragraph _, h | .heading _ _, h | .thematicBreak, h | .blockquote _, h
  | .list _ _ _ _, h | .listItem _ _ _, h | .code _ _ _, h | .math _ _, h | .html _, h
  | .definition _ _, h | .footnoteDefinition _ _, h | .table _ _, h | .tableRow _, h
  | .tableCell _, h | .yaml _, h | .toml _, h | .flowElement _, h | .inlineMath _, h
  | .lineBreak, h | .image _ _, h | .linkReference _ _ _, h | .imageReference _ _ _, h
  | .footnoteReference _, h | .textElement _, h | .expression _, h => by
    simp [isPhrase] at h

theorem renders_phrases {outer : List Style} (hmono : .mono ∉ outer) :
    (ns : List Node) → arePhrases outer ns = true → Renders outer (inlines ns) (shownAll outer ns)
  | [], _ => ⟨[], fun d => (Draft.write_nil d).symm, .nil _⟩
  | n :: ns, h => by
    obtain ⟨hn, hns⟩ := Bool.and_eq_true_iff.mp h
    exact (renders_phrase hmono n hn).comp (renders_phrases hmono ns hns)

end

/-- Phrases are written as one text wherever they stand, and a reader of that text sees every
character and every link of theirs, in order and in the styles around it. -/
theorem shown_inlineText {ns : List Node} (h : arePhrases [] ns = true) :
    (∀ d, inlines ns d = d.write (inlineText ns)) ∧
      Span.shown .none (Span.ofLine (inlineText ns)) = shownAll [] ns := by
  obtain ⟨t, hwrite, hshows⟩ := renders_phrases List.not_mem_nil ns h
  have htext : inlineText ns = t := by
    rw [inlineText, hwrite]
    rfl
  obtain ⟨-, hshown⟩ := hshows [] calm_nil
  obtain ⟨last, hlast⟩ := hshown none
  rw [List.append_nil, tokens_nil, Token.shown, List.append_nil] at hlast
  rw [htext]
  exact ⟨hwrite, by rw [Span.ofLine_eq, Span.shown_gather]; exact hlast⟩

/-- Emphasis of strong text alone, with deleted code in it, next to a link that begins like a
delimiter and one whose text is its address. -/
theorem shown_inlineText_links :
    arePhrases [] [.text "ab".toList,
        .emphasis [.strong [.text ['c'], .delete [.inlineCode "**".toList]]],
        .emphasis [.link ⟨"//d".toList, none⟩ [.text "e f".toList]],
        .link ⟨"http".toList, none⟩ [.text "http".toList]] = true ∧
      Span.shown .none (Span.ofLine (inlineText [.text "ab".toList,
          .emphasis [.strong [.text ['c'], .delete [.inlineCode "**".toList]]],
          .emphasis [.link ⟨"//d".toList, none⟩ [.text "e f".toList]],
          .link ⟨"http".toList, none⟩ [.text "http".toList]])) =
        [.char 'a' .none, .char 'b' .none, .char 'c' ⟨[.bold, .italic]⟩,
          .char '*' ⟨[.bold, .italic, .strike, .mono]⟩,
          .char '*' ⟨[.bold, .italic, .strike, .mono]⟩,
          .link ⟨"//d".toList, some "e f".toList⟩ ⟨[.italic]⟩,
          .link ⟨"http".toList, none⟩ .none] :=
  have h : arePhrases [] [.text "ab".toList,
      .emphasis [.strong [.text ['c'], .delete [.inlineCode "**".toList]]],
      .emphasis [.link ⟨"//d".toList, none⟩ [.text "e f".toList]],
      .link ⟨"http".toList, none⟩ [.text "http".toList]] = true := by decide
  ⟨h, (shown_inlineText h).2⟩

end Import
end MarkupBridge
