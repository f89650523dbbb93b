import MarkupBridge.Export.Document
import MarkupBridge.Grammar
import MarkupBridge.Import.Document
import MarkupBridge.Markdown.Reader
import MarkupBridge.Options
import MarkupBridge.Wiki.Reader

namespace MarkupBridge
open Text

/-- Content is never refused: an error is about the pair of grammars, a tag or the options. -/
inductive ConversionError where
  | unknownGrammar (tag : Text)
  | unsupportedPair (source target : Grammar)
  | invalidOptions
deriving DecidableEq, Repr

namespace ConversionError

def message : ConversionError → Text
  | unknownGrammar tag =>
    "unknown format: ".toList ++ tag ++ " (use 'markdown' or 'mycomarkup')".toList
  | unsupportedPair source target =>
    "no conversion defined from ".toList ++ source.name ++ " to ".toList ++ target.name
  | invalidOptions => "invalid options".toList

end ConversionError

abbrev Converter := Text → Options → Conversion

/-- A document of the wiki as Markdown. -/
def toMarkdown : Converter := fun text options =>
  Export.document ⟨options.site.resolver, options.listIndent⟩ (Wiki.Block.ofText text)

/-- A Markdown document as one of the wiki. -/
def toWiki : Converter := fun text options =>
  Import.document (Markdown.Node.ofText options.dialect text)

def Grammar.parse (tag : Text) : Except ConversionError Grammar :=
  match read? tag with
  | some g => .ok g
  | none => .error (.unknownGrammar tag)

/-- Options that are not given are the default ones. -/
def Options.parse : Option Value → Except ConversionError Options
  | none | some .null => .ok default
  | some v => match read? v with
    | some o => .ok o
    | none => .error .invalidOptions

structure Registry where
  converter? : Grammar → Grammar → Option Converter

namespace Registry

def empty : Registry := ⟨fun _ _ => none⟩

/-- The last conversion registered for a pair is the one that counts. -/
def register (r : Registry) (source target : Grammar) (c : Converter) : Registry :=
  ⟨fun s t => if s = source ∧ t = target then some c else r.converter? s t⟩

def default : Registry :=
  (empty.register .mycomarkup .markdown toMarkdown).register .markdown .mycomarkup toWiki

def has (r : Registry) (source target : Grammar) : Bool := (r.converter? source target).isSome

/-- The pairs that have a conversion. -/
def pairs (r : Registry) : List (Grammar × Grammar) :=
  (Grammar.all.flatMap fun s => Grammar.all.map fun t => (s, t)).filter fun (s, t) => r.has s t

def get (r : Registry) (source target : Grammar) : Except ConversionError Converter :=
  match r.converter? source target with
  | some c => .ok c
  | none => .error (.unsupportedPair source target)

/-- Between equal grammars there is nothing to do, registered or not. -/
def convert (r : Registry) (text : Text) (source target : Grammar) (options : Options) :
    Except ConversionError Conversion :=
  if source = target then .ok (.unchanged text)
  else (r.get source target).map fun c => c text options

theorem mem_pairs {r : Registry} {s t : Grammar} : (s, t) ∈ r.pairs ↔ r.has s t = true := by
  simp [pairs, Grammar.mem_all]

end Registry

/-- A text converted to each grammar in turn. -/
def convertChain (options : Options) (source : Grammar) (text : Text) :
    List Grammar → Except ConversionError (List Conversion)
  | [] => .ok []
  | target :: targets => do
    let c ← Registry.default.convert text source target options
    return c :: (← convertChain options target c.text targets)

end MarkupBridge
