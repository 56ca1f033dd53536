import LspHost.Text.Front
import LspHost.Value

/-!
# TOML: characters, blanks and comments

What the readers of TOML share: why a document has no value, which characters may not occur, and how
the space between the parts of a document is passed over.
-/

namespace LspHost.Toml

open Text (Front)

/-- Why a document has no value. -/
inductive Problem where
  /-- the text is not TOML -/
  | malformed
  /-- an integer has this many digits, which is too many -/
  | tooManyDigits (count : Nat)
  /-- arrays and inline tables are nested too deep -/
  | tooDeep
  deriving DecidableEq, Repr

/-- A key: its parts between the dots. -/
abbrev Key := List String

/-- Whether a character is an ASCII control character. -/
def isControl (c : Char) : Bool := c.toNat < 0x20 || c.toNat == 0x7f

/-- Whether a character may not occur within a line. -/
def isForbidden (c : Char) : Bool := isControl c && c != '\t'

/-- Whether a character may not occur within text of several lines. -/
def isForbiddenInLines (c : Char) : Bool := isForbidden c && c != '\n'

/-- Whether a character is blank within a line. -/
def isBlank (c : Char) : Bool := c == ' ' || c == '\t'

/-- Whether a character is blank or ends a line. -/
def isBlankOrEnd (c : Char) : Bool := isBlank c || c == '\n'

/-- A text without the blanks at its front. -/
def skipBlank (text : List Char) : List Char := text.dropWhile isBlank

/-- A text without the comment at its front, if it has one there. -/
def skipComment : List Char → Except Problem (List Char)
  | '#' :: rest =>
    let (comment, rest) := rest.span (· != '\n')
    if comment.any isForbidden then .error .malformed else .ok rest
  | text => .ok text

/-- A text without the blanks, line ends and comments at its front; `inComment` says that it begins
within a comment. -/
def skipFiller (inComment : Bool) : List Char → Except Problem (List Char)
  | [] => .ok []
  | c :: rest =>
    if inComment then
      if c = '\n' then skipFiller false rest
      else if isForbidden c then .error .malformed
      else skipFiller true rest
    else if isBlankOrEnd c then skipFiller false rest
    else if c = '#' then skipFiller true rest
    else .ok (c :: rest)

end LspHost.Toml
