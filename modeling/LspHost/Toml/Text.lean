import LspHost.Text.Digits
import LspHost.Toml.Basic

/-!
# TOML: texts and keys

A text is literal, between single quotes, or has escapes, between double quotes; both come in a form
for one line and, between three quotes, in a form for several. A key is a row of parts between dots;
a part is bare or a text of one line.
-/

namespace LspHost.Toml

open Text (Front)

/-! ## Literal texts -/

/-- The characters up to the closing single quote. -/
def readLiteral : List Char → Except Problem (Front (List Char))
  | [] => .error .malformed
  | '\'' :: rest => .ok ([], rest)
  | c :: rest =>
    if isForbidden c then .error .malformed
    else do
      let (more, rest) ← readLiteral rest
      return (c :: more, rest)

/-- The characters up to three closing single quotes. -/
def readLiteralLines : List Char → Except Problem (Front (List Char))
  | [] => .error .malformed
  | '\'' :: '\'' :: '\'' :: rest => .ok ([], rest)
  | c :: rest =>
    if isForbiddenInLines c then .error .malformed
    else do
      let (more, rest) ← readLiteralLines rest
      return (c :: more, rest)

/-! ## Texts with escapes -/

/-- The character that a letter after a backslash stands for. -/
def escapeOf? : Char → Option Char
  | 'b' => some '\x08'
  | 't' => some '\t'
  | 'n' => some '\n'
  | 'f' => some '\x0c'
  | 'r' => some '\r'
  | '"' => some '"'
  | '\\' => some '\\'
  | _ => none

/-- The character of hexadecimal digits, if they are digits and there is such a character. -/
def charOfHex? (digits : List Char) : Option Char := do
  let point ← Text.hex? digits
  if point < 0xd800 ∨ 0xdfff < point ∧ point ≤ 0x10ffff then some (Char.ofNat point) else none

/-- What a text of several lines goes on with after a backslash before blanks: the line must end
there, and all blanks and line ends after it are passed over. -/
def afterLineEnd? (text : List Char) : Option (List Char) :=
  match skipBlank text with
  | [] => some []
  | '\n' :: rest => some (rest.dropWhile isBlankOrEnd)
  | _ => none

/-- The characters up to the closing double quote, or to three of them if the text is one of several
`lines`; `fuel` bounds the number of characters. -/
def readEscaped (lines : Bool) (fuel : Nat) (text : List Char) :
    Except Problem (Front (List Char)) :=
  match fuel with
  | 0 => .error .malformed
  | fuel + 1 =>
    let go (c : Char) (rest : List Char) : Except Problem (Front (List Char)) := do
      let (more, rest) ← readEscaped lines fuel rest
      return (c :: more, rest)
    match text with
    | [] => .error .malformed
    | '"' :: rest =>
      match lines, rest with
      | false, rest => .ok ([], rest)
      | true, '"' :: '"' :: rest => .ok ([], rest)
      | true, rest => go '"' rest
    | '\\' :: 'u' :: rest =>
      match charOfHex? (rest.take 4) with
      | some c => if (rest.take 4).length = 4 then go c (rest.drop 4) else .error .malformed
      | none => .error .malformed
    | '\\' :: 'U' :: rest =>
      match charOfHex? (rest.take 8) with
      | some c => if (rest.take 8).length = 8 then go c (rest.drop 8) else .error .malformed
      | none => .error .malformed
    | '\\' :: c :: rest =>
      if lines && isBlankOrEnd c then
        match afterLineEnd? (c :: rest) with
        | some rest => readEscaped lines fuel rest
        | none => .error .malformed
      else
        match escapeOf? c with
        | some c => go c rest
        | none => .error .malformed
    | c :: rest =>
      if c = '\\' || (if lines then isForbiddenInLines c else isForbidden c) then .error .malformed
      else go c rest

/-! ## All forms -/

/-- A text without one line end at its front. -/
def dropLineEnd : List Char → List Char
  | '\n' :: rest => rest
  | text => text

/-- Up to two quotes right after the closing three belong to the text. -/
def takeExtraQuotes (quote : Char) (chars : List Char) : List Char → Front String
  | a :: b :: rest =>
    if a = quote ∧ b = quote then (String.ofList (chars ++ [quote, quote]), rest)
    else if a = quote then (String.ofList (chars ++ [quote]), b :: rest)
    else (String.ofList chars, a :: b :: rest)
  | [a] => if a = quote then (String.ofList (chars ++ [quote]), []) else (String.ofList chars, [a])
  | [] => (String.ofList chars, [])

/-- A text of one line, from its opening quote on. -/
def readLineText : List Char → Except Problem (Front String)
  | '\'' :: rest => do
    let (chars, rest) ← readLiteral rest
    return (String.ofList chars, rest)
  | '"' :: rest => do
    let (chars, rest) ← readEscaped false (rest.length + 1) rest
    return (String.ofList chars, rest)
  | _ => .error .malformed

/-- A text of any form, from its opening quotes on. -/
def readAnyText : List Char → Except Problem (Front String)
  | '\'' :: '\'' :: '\'' :: rest => do
    let (chars, rest) ← readLiteralLines (dropLineEnd rest)
    return takeExtraQuotes '\'' chars rest
  | '"' :: '"' :: '"' :: rest => do
    let body := dropLineEnd rest
    let (chars, rest) ← readEscaped true (body.length + 1) body
    return takeExtraQuotes '"' chars rest
  | text => readLineText text

/-! ## Keys -/

/-- Whether a character may occur in a bare part of a key. -/
def isBare (c : Char) : Bool := c.isAlphanum || c == '-' || c == '_'

/-- Whether a key can begin with a character. -/
def beginsKey (c : Char) : Bool := isBare c || c == '"' || c == '\''

/-- One part of a key. -/
def readKeyPart (text : List Char) : Except Problem (Front String) :=
  let (bare, rest) := text.span isBare
  if bare.isEmpty then readLineText text else .ok (String.ofList bare, rest)

/-- A key with the blanks after it; `fuel` bounds the number of its parts. -/
def readKeyWith (fuel : Nat) (text : List Char) : Except Problem (Front Key) :=
  match fuel with
  | 0 => .error .malformed
  | fuel + 1 => do
    let (part, rest) ← readKeyPart text
    match skipBlank rest with
    | '.' :: rest =>
      let (parts, rest) ← readKeyWith fuel (skipBlank rest)
      return (part :: parts, rest)
    | rest => return ([part], rest)

/-- A key with the blanks after it. -/
def readKey (text : List Char) : Except Problem (Front Key) :=
  readKeyWith (text.length + 1) text

end LspHost.Toml
