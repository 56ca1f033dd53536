import LspHost.Text.Utf8

/-!
# Octets

What programs read and write is a row of octets, which need not be a text. Each is kept as the
character of its value, so that octets that encode a text and octets that do not are handled alike.
-/

namespace LspHost.Machine

/-- Octets, each as the character of its value. -/
abbrev Octets := List Char

/-- The octets of bytes. -/
def octetsOfBytes (bytes : ByteArray) : Octets :=
  bytes.toList.map fun byte => Char.ofNat byte.toNat

/-- Octets as bytes. -/
def bytesOf (octets : Octets) : ByteArray :=
  ⟨(octets.map fun c => UInt8.ofNat c.toNat).toArray⟩

/-- The octets of a text. -/
def octetsOf (text : String) : Octets := octetsOfBytes (Text.toBytes text)

/-- Octets as a text; octets that are no text are taken one by one. -/
def textOf (octets : Octets) : String :=
  (Text.ofBytes? (bytesOf octets)).getD (String.ofList octets)

end LspHost.Machine
