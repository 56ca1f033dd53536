/-!
# Blank characters

The characters that count as white space at the ends of a command's output: the Unicode characters
whose category is a space separator or whose bidirectional class is a separator or white space.
`trim` removes them from both ends.
-/

namespace LspHost.Text

/-- The code points of the blank characters, as inclusive ranges. -/
def blankRanges : List (Nat × Nat) :=
  [(0x09, 0x0d), (0x1c, 0x20), (0x85, 0x85), (0xa0, 0xa0), (0x1680, 0x1680), (0x2000, 0x200a),
    (0x2028, 0x2029), (0x202f, 0x202f), (0x205f, 0x205f), (0x3000, 0x3000)]

/-- Whether a character is white space. -/
def isBlank (c : Char) : Bool :=
  blankRanges.any fun range => range.1 ≤ c.toNat && c.toNat ≤ range.2

/-- The characters of a text without those at either end that pass a check. -/
def trimBy (check : Char → Bool) (text : List Char) : List Char :=
  ((text.dropWhile check).reverse.dropWhile check).reverse

/-- The characters of a text without the blanks at either end. -/
def trimChars (text : List Char) : List Char := trimBy isBlank text

/-- A text without the blanks at either end. -/
def trim (text : String) : String :=
  String.ofList (trimChars text.toList)

end LspHost.Text
