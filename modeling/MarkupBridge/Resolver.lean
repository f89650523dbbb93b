import MarkupBridge.Address

namespace MarkupBridge
open Text

/-- A target of a link. A link into the wiki has the canonical name of its document. -/
structure Target where
  href : Text
  document : Option Text
deriving DecidableEq, Repr

namespace Target

/-- A target written as it is. -/
def external (href : Text) : Target := ⟨href, none⟩

def isInternal (t : Target) : Bool := t.document.isSome

end Target

/-- What a conversion asks about addresses. The prefix marks the targets inside the wiki. -/
structure Resolver where
  resolve : Text → Target
  imageSource : Text → Text
  documentPrefix : Text

/-- Addresses resolved by a table; the others stand for themselves. -/
def Resolver.ofTable (table : List (Text × Target)) (documentPrefix : Text) : Resolver :=
  let resolve address := (table.lookup address).getD (Target.external address)
  ⟨resolve, fun t => (resolve t).href, documentPrefix⟩

/-- A wiki, and the canonical name of the document that is read. -/
structure Site where
  document : Option Text
  documentPrefix : Text
  mediaPrefix : Text
deriving DecidableEq, Repr

namespace Site

def default : Site := ⟨none, "/hypha/".toList, "/binary/".toList⟩

def withDocument (s : Site) (name : Text) : Site :=
  { s with document := some (Address.canonicalName name) }

/-- A name against the current document: `./` is below it and `../` beside it. -/
def absoluteName (s : Site) (name : Text) : Text :=
  let base := s.document.getD []
  match after? ['.', '/'] name with
  | some rest => if base.isEmpty then rest else base ++ '/' :: rest
  | none => match after? ['.', '.', '/'] name with
    | some rest => match cutLast? '/' base with
      | some (parent, _) => parent ++ '/' :: rest
      | none => rest
    | none => name

def documentName (s : Site) (name : Text) : Text := Address.canonicalName (s.absoluteName name)

/-- An anchor is kept as it is and is no part of the name. -/
def resolve (s : Site) (address : Text) : Target :=
  let address := trim address
  if Address.isVerbatim address then .external address
  else match cutChar? '#' address with
  | some (name, anchor) =>
    ⟨s.documentPrefix ++ s.documentName name ++ '#' :: anchor, some (s.documentName name)⟩
  | none => ⟨s.documentPrefix ++ s.documentName address, some (s.documentName address)⟩

def imageSource (s : Site) (target : Text) : Text :=
  let target := trim target
  if Address.isVerbatim target then target else s.mediaPrefix ++ s.documentName target

def resolver (s : Site) : Resolver := ⟨s.resolve, s.imageSource, s.documentPrefix⟩

end Site

end MarkupBridge
