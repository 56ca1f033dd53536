import LspHost.Text.Digits
import LspHost.Text.Utf8

/-!
# Percent encoding

A path becomes part of a file URI byte by byte: letters, digits, `_`, `.`, `-`, `~` and `/` stand
for themselves, every other byte of the UTF-8 encoding is written as `%` and two upper case
hexadecimal digits. `decodePercent` reads the form back.
-/

namespace LspHost.Text

/-- Whether a byte stands for itself. -/
def staysBare (byte : UInt8) : Bool :=
  let c := Char.ofNat byte.toNat
  c.isAlphanum || c == '_' || c == '.' || c == '-' || c == '~' || c == '/'

/-- One byte in its encoded form. -/
def percentByte (byte : UInt8) : List Char :=
  if staysBare byte then [Char.ofNat byte.toNat]
  else ['%', upperHexDigit (byte.toNat / 16), upperHexDigit (byte.toNat % 16)]

/-- The encoded form of a text. -/
def encodePercent (text : String) : String :=
  String.ofList ((toBytes text).toList.flatMap percentByte)

/-- The bytes that an encoded form stands for, none if a `%` is not followed by two digits. -/
def decodePercent : List Char → Option (List UInt8)
  | [] => some []
  | '%' :: high :: low :: rest => do
    let high ← hexDigit? high
    let low ← hexDigit? low
    let rest ← decodePercent rest
    return UInt8.ofNat (high * 16 + low) :: rest
  | c :: rest =>
    if c = '%' then none else (decodePercent rest).map (UInt8.ofNat c.toNat :: ·)

end LspHost.Text
