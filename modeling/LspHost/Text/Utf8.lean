/-!
# Bytes and text

Text crosses the border to files and processes as UTF-8. Reading is strict: bytes that are not the
encoding of any text are refused as a whole.
-/

namespace LspHost.Text

/-- The text that the bytes encode, if they encode one. -/
def ofBytes? (bytes : ByteArray) : Option String :=
  String.fromUTF8? bytes

/-- The UTF-8 bytes of a text. -/
def toBytes (text : String) : ByteArray :=
  text.toUTF8

/-- The number of bytes that a text takes. -/
def byteCount (text : String) : Nat :=
  text.utf8ByteSize

/-- **Writing and reading back** gives the same text. -/
theorem ofBytes?_toBytes (text : String) : ofBytes? (toBytes text) = some text := by
  simp only [ofBytes?, toBytes, String.fromUTF8?, String.toUTF8_eq_toByteArray,
    dif_pos text.isValidUTF8]
  rfl

end LspHost.Text
