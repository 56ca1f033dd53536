/-!
# Reading from the front

A reader takes something off the front of a text and leaves the rest.
-/

namespace LspHost.Text

/-- Something that was read at the front of a text, with the rest of the text. -/
abbrev Front (α : Type) := α × List Char

/-- The rest of a text after a word that it begins with. -/
def afterWord? (word : String) (text : List Char) : Option (List Char) :=
  if word.toList.isPrefixOf text then some (text.drop word.length) else none

end LspHost.Text
