import MarkupBridge.Path
import MarkupBridge.Text.Blank
import MarkupBridge.Text.Case

namespace MarkupBridge
open Text

inductive Grammar where
  | mycomarkup | markdown
deriving DecidableEq, Repr

namespace Grammar

def all : List Grammar := [mycomarkup, markdown]

def name : Grammar → Text
  | mycomarkup => "Mycomarkup".toList
  | markdown => "Markdown".toList

/-- The tag that is written. -/
def tag : Grammar → Text
  | mycomarkup => "mycomarkup".toList
  | markdown => "markdown".toList

def extension : Grammar → Text
  | mycomarkup => "myco".toList
  | markdown => "md".toList

/-- The end of a file's name. -/
def suffix (g : Grammar) : Text := '.' :: g.extension

def ofTag? (t : Text) : Option Grammar := all.find? fun g => g.tag == t

/-- A tag as people write it: in any case, with blanks around it, or short like the extension. -/
def read? (t : Text) : Option Grammar :=
  let t := lowerAscii (trim t)
  all.find? fun g => g.tag == t || g.extension == t

/-- Without the extension of Markdown a file is the wiki's own. -/
def ofPath (path : Text) : Grammar :=
  if Path.extension? path = some markdown.extension then markdown else mycomarkup

def rename (g : Grammar) (path : Text) : Text := Path.replaceExtension path g.extension

theorem ofTag?_tag (g : Grammar) : ofTag? g.tag = some g := by cases g <;> decide

theorem mem_all (g : Grammar) : g ∈ all := by cases g <;> decide

end Grammar

end MarkupBridge
