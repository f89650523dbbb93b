import MarkupBridge.Text.Basic

namespace MarkupBridge.Path
open Text

/-- Empty segments and `.` name nothing. -/
def isName (segment : Text) : Bool := !segment.isEmpty && segment != ['.']

/-- The file's name, after the segments before it: the last segment that names something, unless it
is `..`. -/
def locate? (path : Text) : Option (List Text × Text) :=
  match (split '/' path).reverse.dropWhile (!isName ·) with
  | [] => none
  | name :: before => if name = ['.', '.'] then none else some (before.reverse, name)

/-- A name's stem and its extension, which follows the last dot; a dot that leads the name starts no
extension. -/
def stem (name : Text) : Text × Option Text :=
  match cutLast? '.' name with
  | none => (name, none)
  | some (s, e) => if s.isEmpty then (name, none) else (s, some e)

def extension? (path : Text) : Option Text := (locate? path).bind fun (_, name) => (stem name).2

/-- The path less its file's extension. What is cut off is the end of the whole path, which may have
slashes after the name; a path without a name stays as it is. -/
def withoutExtension (path : Text) : Text :=
  path.take (path.length - ((extension? path).getD []).length)

/-- The path with another extension. -/
def replaceExtension (path ext : Text) : Text :=
  let path := withoutExtension path
  match locate? path with
  | none => path
  | some (before, name) => join ['/'] (before ++ [(stem name).1 ++ '.' :: ext])

end MarkupBridge.Path
