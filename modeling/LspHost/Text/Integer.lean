import LspHost.Text.Blank
import LspHost.Text.Digits

/-!
# Integers in text

A text stands for an integer if it is a row of decimal digits, of any script, perhaps with a sign in
front, with single underscores between digits, and with blanks around all of it. The control
characters that separate fields and records are blank elsewhere, but not around an integer.
-/

namespace LspHost.Text

/-- The greatest number of digits of an integer that is read. -/
def digitLimit : Nat := 4300

/-- Whether a character may stand around an integer. -/
def isMargin (c : Char) : Bool := isBlank c && !('\x1c' ≤ c && c ≤ '\x1f')

/-- The values of a row of digits with single underscores between them. -/
def digitRow? : List Char → Option (List Nat)
  | [] => none
  | [c] => (scriptDigit? c).map ([·])
  | c :: '_' :: rest => do return (← scriptDigit? c) :: (← digitRow? rest)
  | c :: rest => do return (← scriptDigit? c) :: (← digitRow? rest)

/-- The natural number that a row of digits stands for; none if there are too many of them. -/
def natural? (text : List Char) : Option Nat := do
  let digits ← digitRow? text
  if digitLimit < digits.length then none else some (ofDigits 10 digits)

/-- The integer that a text stands for. -/
def integer? (text : String) : Option Int :=
  match trimBy isMargin text.toList with
  | '-' :: rest => (natural? rest).map fun n => -(n : Int)
  | '+' :: rest => (natural? rest).map Int.ofNat
  | rest => (natural? rest).map Int.ofNat

example : integer? " -1_2\n" = some (-12) := by decide +kernel

example : integer? "1__2" = none := by decide +kernel

example : integer? "\x0b12" = some 12 ∧ integer? "\x1c12" = none := by decide +kernel

end LspHost.Text
