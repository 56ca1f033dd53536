import LspHost.Text.Digits
import LspHost.Toml.Basic

/-!
# TOML: numbers, dates and times

A number may have single underscores between its digits. Each reader takes the longest form that it
knows off the front; whatever follows is up to the reader of the document.
-/

namespace LspHost.Toml

open Text (Front)

/-- Whether a character is a decimal digit. -/
def isDigit (c : Char) : Bool := (Text.decimalDigit? c).isSome

/-! ## Numbers -/

/-- The digits at the front, none or more, that may have an underscore before each of them. -/
def moreDigits (ofBase : Char → Bool) : List Char → Front (List Char)
  | '_' :: c :: rest =>
    if ofBase c then
      let (digits, rest) := moreDigits ofBase rest
      (c :: digits, rest)
    else ([], '_' :: c :: rest)
  | c :: rest =>
    if ofBase c then
      let (digits, rest) := moreDigits ofBase rest
      (c :: digits, rest)
    else ([], c :: rest)
  | [] => ([], [])

/-- The digits at the front with single underscores between them. -/
def someDigits (ofBase : Char → Bool) : List Char → Option (Front (List Char))
  | c :: rest =>
    if ofBase c then
      let (digits, rest) := moreDigits ofBase rest
      some (c :: digits, rest)
    else none
  | [] => none

/-- The sign at the front; `true` for minus. -/
def takeSign : List Char → Front Bool
  | '-' :: rest => (true, rest)
  | '+' :: rest => (false, rest)
  | text => (false, text)

/-- An integer in base two, eight or sixteen. -/
def readPrefixed? : List Char → Option (Front Value)
  | '0' :: 'x' :: rest => do
    let (digits, rest) ← someDigits (fun c => (Text.hexDigit? c).isSome) rest
    return (.int (Text.ofDigits 16 (digits.filterMap Text.hexDigit?)), rest)
  | '0' :: 'b' :: rest => do
    let (digits, rest) ← someDigits (fun c => c == '0' || c == '1') rest
    return (.int (Text.ofDigits 2 (digits.filterMap Text.hexDigit?)), rest)
  | '0' :: 'o' :: rest => do
    let (digits, rest) ← someDigits (fun c => '0' ≤ c && c ≤ '7') rest
    return (.int (Text.ofDigits 8 (digits.filterMap Text.hexDigit?)), rest)
  | _ => none

/-- The digits before the point: a lone zero, or digits that do not begin with one. -/
def wholeDigits : List Char → Option (Front (List Char))
  | '0' :: rest => some (['0'], rest)
  | text => someDigits isDigit text

/-- The fraction at the front: a point and digits. -/
def fractionDigits : List Char → Option (Front (List Char))
  | '.' :: rest => someDigits isDigit rest
  | _ => none

/-- The exponent at the front: a letter, a sign and digits. -/
def exponentDigits : List Char → Option (Front Int)
  | e :: rest =>
    if e = 'e' ∨ e = 'E' then do
      let (negative, rest) := takeSign rest
      let (digits, rest) ← someDigits isDigit rest
      let size : Int := Text.decimal digits
      return (if negative then -size else size, rest)
    else none
  | [] => none

/-- The greatest number of digits of a decimal integer that is converted. -/
def digitLimit : Nat := 4300

/-- A decimal number. -/
def readDecimal? (text : List Char) : Option (Except Problem (Front Value)) := do
  let (negative, body) := takeSign text
  let (whole, rest) ← wholeDigits body
  match fractionDigits rest with
  | some (fraction, rest) =>
    let (exponent, rest) := (exponentDigits rest).getD (0, rest)
    let digits := Text.decimal (whole ++ fraction)
    return .ok (.float (.ofDecimal negative digits (exponent - fraction.length)), rest)
  | none =>
    match exponentDigits rest with
    | some (exponent, rest) =>
      return .ok (.float (.ofDecimal negative (Text.decimal whole) exponent), rest)
    | none =>
      if digitLimit < whole.length then return .error (.tooManyDigits whole.length)
      let size : Int := Text.decimal whole
      return .ok (.int (if negative then -size else size), rest)

/-- A number that is spelled as a word. -/
def readSpecial? (text : List Char) : Option (Front Value) :=
  let words : List (String × Binary64) :=
    [("inf", .infinite false), ("nan", .nan), ("-inf", .infinite true), ("+inf", .infinite false),
      ("-nan", .nan), ("+nan", .nan)]
  words.findSome? fun (word, x) => (Text.afterWord? word text).map (Value.float x, ·)

/-! ## Dates and times -/

/-- Exactly `count` decimal digits, as a number. -/
def fixedDigits (count : Nat) (text : List Char) : Option (Front Nat) :=
  let digits := text.take count
  if digits.length = count ∧ digits.all isDigit then some (Text.decimal digits, text.drop count)
  else none

/-- Two digits that form a number from `low` to `high`. -/
def twoDigits (low high : Nat) (text : List Char) : Option (Front Nat) := do
  let (n, rest) ← fixedDigits 2 text
  if low ≤ n ∧ n ≤ high then some (n, rest) else none

/-- A given character. -/
def single (c : Char) : List Char → Option (List Char)
  | d :: rest => if d = c then some rest else none
  | [] => none

/-- The microseconds of a fraction of a second; digits after the sixth say nothing. -/
def takeMicroseconds : List Char → Front Nat
  | '.' :: rest =>
    let (digits, after) := rest.span isDigit
    if digits.isEmpty then (0, '.' :: rest)
    else
      let six := digits.take 6
      (Text.decimal six * Nat.pow 10 (6 - six.length), after)
  | text => (0, text)

/-- A time of day. -/
def readClock? (text : List Char) : Option (Front Clock) := do
  let (hour, rest) ← twoDigits 0 23 text
  let rest ← single ':' rest
  let (minute, rest) ← twoDigits 0 59 rest
  let rest ← single ':' rest
  let (second, rest) ← twoDigits 0 59 rest
  let (micro, rest) := takeMicroseconds rest
  return ({ hour, minute, second, micro }, rest)

/-- An offset from universal time of a number of hours and minutes. -/
def readOffsetSize? (text : List Char) : Option (Front Int) := do
  let (hour, rest) ← twoDigits 0 23 text
  let rest ← single ':' rest
  let (minute, rest) ← twoDigits 0 59 rest
  return (hour * 60 + minute, rest)

/-- The offset after a time of day, if there is one. -/
def takeOffset : List Char → Front (Option Int)
  | c :: rest =>
    if c = 'Z' ∨ c = 'z' then (some 0, rest)
    else if c = '+' ∨ c = '-' then
      match readOffsetSize? rest with
      | some (size, after) => (some (if c = '-' then -size else size), after)
      | none => (none, c :: rest)
    else (none, c :: rest)
  | [] => (none, [])

/-- The time of day after a date, if there is one. -/
def readTimeAfterDate? : List Char → Option (Front (Clock × Option Int))
  | c :: rest =>
    if c = 'T' ∨ c = 't' ∨ c = ' ' then do
      let (clock, rest) ← readClock? rest
      let (offset, rest) := takeOffset rest
      return ((clock, offset), rest)
    else none
  | [] => none

/-- The digits of a date. -/
def readDay? (text : List Char) : Option (Front Date) := do
  let (year, rest) ← fixedDigits 4 text
  let rest ← single '-' rest
  let (month, rest) ← twoDigits 1 12 rest
  let rest ← single '-' rest
  let (day, rest) ← twoDigits 1 31 rest
  return ({ year, month, day }, rest)

/-- A date, with or without a time of day, or a time of day; a date must be one of the calendar. -/
def readMoment? (text : List Char) : Option (Except Problem (Front Value)) :=
  match readDay? text with
  | some (day, rest) =>
    if !day.isValid then some (.error .malformed)
    else
      match readTimeAfterDate? rest with
      | some ((clock, offset), rest) => some (.ok (.moment (.dateTime day clock offset), rest))
      | none => some (.ok (.moment (.date day), rest))
  | none => (readClock? text).map fun (clock, rest) => .ok (.moment (.time clock), rest)

/-- A date, a time or a number. -/
def readScalar (text : List Char) : Except Problem (Front Value) :=
  match readMoment? text with
  | some result => result
  | none =>
    match readPrefixed? text with
    | some front => .ok front
    | none =>
      match readDecimal? text with
      | some result => result
      | none =>
        match readSpecial? text with
        | some front => .ok front
        | none => .error .malformed

end LspHost.Toml
