import LspHost.Text.Digits
import LspHost.Text.Front
import LspHost.Value

/-!
# Reading JSON

`Json.parse` reads a JSON text. Besides standard JSON it takes `NaN`, `Infinity` and `-Infinity`; a
key that occurs twice keeps its first place and its last value. Three things can go wrong: the text
is not JSON, an integer has more digits than are converted, or lists and objects are nested too
deep.
-/

namespace LspHost.Json

open Text (Front)

/-- Why a text has no JSON value. -/
inductive Problem where
  /-- the text is not JSON -/
  | malformed
  /-- an integer has this many digits, which is too many -/
  | tooManyDigits (count : Nat)
  /-- lists and objects are nested too deep -/
  | tooDeep
  deriving DecidableEq, Repr

/-- The greatest number of digits of an integer that is converted. -/
def digitLimit : Nat := 4300

/-- The greatest depth of lists and objects. A reader that nests calls as deep as its text has as much
room as its callers leave on the stack; the limit is fixed here at what is left a few calls below the
start of a program, and a caller from deeper down leaves less. -/
def depthLimit : Nat := 985

/-- Whether a character may stand between the parts of a JSON text. -/
def isSpace (c : Char) : Bool :=
  c == ' ' || c == '\t' || c == '\n' || c == '\r'

/-- A text from its first character on that is no space. -/
def skipSpace (text : List Char) : List Char := text.dropWhile isSpace

/-- Whether a character is a decimal digit. -/
def isDigit (c : Char) : Bool := (Text.decimalDigit? c).isSome

/-! ## Texts -/

/-- The character that a letter after a backslash stands for. -/
def escapeOf? : Char → Option Char
  | '"' => some '"'
  | '\\' => some '\\'
  | '/' => some '/'
  | 'b' => some '\x08'
  | 'f' => some '\x0c'
  | 'n' => some '\n'
  | 'r' => some '\r'
  | 't' => some '\t'
  | _ => none

/-- Whether a code is the first half of a pair that stands for one character. -/
def isHighHalf (code : Nat) : Bool := 0xd800 ≤ code && code ≤ 0xdbff

/-- Whether a code is the second half of a pair. -/
def isLowHalf (code : Nat) : Bool := 0xdc00 ≤ code && code ≤ 0xdfff

/-- The character of a pair of halves. -/
def joinHalves (high low : Nat) : Char :=
  Char.ofNat (0x10000 + (high - 0xd800) * 0x400 + (low - 0xdc00))

/-- The character of a single code; half of a pair stands for no character and is replaced. -/
def charOfCode (code : Nat) : Char :=
  if isHighHalf code || isLowHalf code then '\ufffd' else Char.ofNat code

/-- The characters before the next one: what stands for a first half that no second half follows. -/
def unpaired (half : Option Nat) : List Char := (half.map charOfCode).toList

/-- The characters up to the closing quote; `half` is the first half of a pair right before them. -/
def readText (half : Option Nat) : List Char → Except Problem (Front (List Char))
  | [] => .error .malformed
  | '"' :: rest => .ok (unpaired half, rest)
  | '\\' :: 'u' :: a :: b :: c :: d :: rest => do
    let some code := Text.hex? [a, b, c, d] | .error .malformed
    -- two halves make one character only if nothing stands between them
    match half, isLowHalf code with
    | some high, true =>
      let (more, rest) ← readText none rest
      return (joinHalves high code :: more, rest)
    | _, _ =>
      if isHighHalf code then
        let (more, rest) ← readText (some code) rest
        return (unpaired half ++ more, rest)
      else
        let (more, rest) ← readText none rest
        return (unpaired half ++ charOfCode code :: more, rest)
  | '\\' :: letter :: rest => do
    let some c := escapeOf? letter | .error .malformed
    let (more, rest) ← readText none rest
    return (unpaired half ++ c :: more, rest)
  | c :: rest =>
    if c = '\\' ∨ c.toNat < 0x20 then .error .malformed
    else do
      let (more, rest) ← readText none rest
      return (unpaired half ++ c :: more, rest)

/-! ## Numbers -/

/-- The digits at the front and what follows them. -/
def spanDigits (text : List Char) : List Char × List Char := text.span isDigit

/-- The fraction at the front, which is empty unless a digit follows the point. -/
def spanFraction : List Char → List Char × List Char
  | '.' :: rest =>
    let (digits, after) := spanDigits rest
    if digits.isEmpty then ([], '.' :: rest) else (digits, after)
  | text => ([], text)

/-- The exponent at the front: its sign, its digits and what follows; none unless a digit is
there. -/
def spanExponent? : List Char → Option (Bool × List Char × List Char)
  | e :: rest =>
    if e = 'e' ∨ e = 'E' then
      let (negative, body) :=
        match rest with
        | '-' :: body => (true, body)
        | '+' :: body => (false, body)
        | body => (false, body)
      let (digits, after) := spanDigits body
      if digits.isEmpty then none else some (negative, digits, after)
    else none
  | [] => none

/-- The digits before the point: a lone zero, or digits that do not begin with one. -/
def spanWhole : List Char → List Char × List Char
  | '0' :: rest => (['0'], rest)
  | text => spanDigits text

/-- Reads a number. -/
def readNumber (text : List Char) : Except Problem (Front Value) :=
  let (negative, body) :=
    match text with
    | '-' :: body => (true, body)
    | body => (false, body)
  let (whole, rest) := spanWhole body
  if whole.isEmpty then .error .malformed
  else
    let (fraction, rest) := spanFraction rest
    match fraction, spanExponent? rest with
    | [], none =>
      if digitLimit < whole.length then .error (.tooManyDigits whole.length)
      else
        let size : Int := Text.decimal whole
        .ok (.int (if negative then -size else size), rest)
    | fraction, none =>
      .ok (.float (.ofDecimal negative (Text.decimal (whole ++ fraction)) (-fraction.length)), rest)
    | fraction, some (down, digits, rest) =>
      let size : Int := Text.decimal digits
      let exponent := (if down then -size else size) - fraction.length
      .ok (.float (.ofDecimal negative (Text.decimal (whole ++ fraction)) exponent), rest)

/-! ## Values -/

/-- The value at the front of a text if it is one of the fixed words. -/
def readWord? (text : List Char) : Option (Front Value) :=
  let words : List (String × Value) :=
    [("null", .null), ("true", .bool true), ("false", .bool false), ("NaN", .float .nan),
      ("Infinity", .float (.infinite false)), ("-Infinity", .float (.infinite true))]
  words.findSome? fun (word, value) => (Text.afterWord? word text).map (value, ·)

mutual

/-- Reads a value that begins at the first character; `depth` is the number of lists and objects
around it and `fuel` bounds the number of values. -/
def readValue (fuel depth : Nat) (text : List Char) : Except Problem (Front Value) :=
  match fuel with
  | 0 => .error .malformed
  | fuel + 1 =>
    match text with
    | '"' :: rest => do
      let (chars, rest) ← readText none rest
      return (.string (String.ofList chars), rest)
    | '[' :: rest =>
      if depthLimit ≤ depth then .error .tooDeep
      else
        match skipSpace rest with
        | ']' :: rest => .ok (.list [], rest)
        | rest => do
          let (items, rest) ← readItems fuel (depth + 1) rest
          return (.list items, rest)
    | '\x7b' :: rest =>
      if depthLimit ≤ depth then .error .tooDeep
      else
        match skipSpace rest with
        | '\x7d' :: rest => .ok (.table [], rest)
        | rest => do
          let (entries, rest) ← readEntries fuel (depth + 1) rest
          return (.table (Table.ofPairs entries), rest)
    | text =>
      match readWord? text with
      | some front => .ok front
      | none => readNumber text

/-- Reads the values of a list up to its closing bracket. -/
def readItems (fuel depth : Nat) (text : List Char) : Except Problem (Front (List Value)) :=
  match fuel with
  | 0 => .error .malformed
  | fuel + 1 => do
    let (item, rest) ← readValue fuel depth text
    match skipSpace rest with
    | ']' :: rest => return ([item], rest)
    | ',' :: rest =>
      let (items, rest) ← readItems fuel depth (skipSpace rest)
      return (item :: items, rest)
    | _ => .error .malformed

/-- Reads the keys and values of an object up to its closing brace. -/
def readEntries (fuel depth : Nat) (text : List Char) :
    Except Problem (Front (List (String × Value))) :=
  match fuel with
  | 0 => .error .malformed
  | fuel + 1 =>
    match text with
    | '"' :: rest => do
      let (key, rest) ← readText none rest
      let ':' :: rest := skipSpace rest | .error .malformed
      let (value, rest) ← readValue fuel depth (skipSpace rest)
      let entry := (String.ofList key, value)
      match skipSpace rest with
      | '\x7d' :: rest => return ([entry], rest)
      | ',' :: rest =>
        let (entries, rest) ← readEntries fuel depth (skipSpace rest)
        return (entry :: entries, rest)
      | _ => .error .malformed
    | _ => .error .malformed

end

/-- The value of a JSON text, which has nothing but spaces around it. -/
def parse (text : String) : Except Problem Value := do
  let chars := text.toList
  let (value, rest) ← readValue (2 * chars.length + 2) 0 (skipSpace chars)
  if (skipSpace rest).isEmpty then return value else .error .malformed

end LspHost.Json
