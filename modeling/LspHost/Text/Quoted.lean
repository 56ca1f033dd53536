import LspHost.Text.Digits
import LspHost.Text.Printable

/-!
# Quoted text

The unambiguous form in which log lines and messages show a text: between single quotes, or between
double quotes if it holds single quotes only; the quote and the backslash are escaped by a
backslash, and what is not printable is written by its code point.
-/

namespace LspHost.Text

/-- The quote that encloses a text: the double one only for a text with single quotes and no double
ones. -/
def quoteFor (text : List Char) : Char :=
  if text.contains '\'' && !text.contains '"' then '"' else '\''

/-- The escape of a character that is not printable: two, four or eight hexadecimal digits. -/
def pointEscape (c : Char) : List Char :=
  let point := c.toNat
  if point ≤ 0xff then '\\' :: 'x' :: hexDigits 2 point
  else if point ≤ 0xffff then '\\' :: 'u' :: hexDigits 4 point
  else '\\' :: 'U' :: hexDigits 8 point

/-- One character inside a quotation that `quote` encloses. -/
def escapeIn (quote c : Char) : List Char :=
  if c = quote ∨ c = '\\' then ['\\', c]
  else if c = '\n' then ['\\', 'n']
  else if c = '\r' then ['\\', 'r']
  else if c = '\t' then ['\\', 't']
  else if isPrintable c then [c]
  else pointEscape c

/-- A text in its quoted form. -/
def quoted (text : String) : String :=
  let chars := text.toList
  let quote := quoteFor chars
  String.ofList (quote :: chars.flatMap (escapeIn quote) ++ [quote])

example : quoted "it's" = "\"it's\"" := by decide +kernel

example : quoted "a\\\n\"'" = "'a\\\\\\n\"\\''" := by decide +kernel

end LspHost.Text
