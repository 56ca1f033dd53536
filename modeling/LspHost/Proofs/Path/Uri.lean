import LspHost.Proofs.Path.Text

/-!
# File URIs name one path

The percent encoding of a text is read back (`Text.decodePercent_encodePercent`), so the file URI of
a path determines the path (`Path.uri_injective`).
-/

namespace LspHost

namespace Text

/-! ## Bytes -/

theorem toList_loop (bytes : ByteArray) (i : Nat) (done : List UInt8) :
    ByteArray.toList.loop bytes i done = done.reverse ++ bytes.data.toList.drop i := by
  induction i, done using ByteArray.toList.loop.induct bytes with
  | case1 i done hi ih =>
    have hlength : i < bytes.data.toList.length := hi
    have hget : bytes.get! i = bytes.data.toList[i] := by
      rw [ByteArray.get!, getElem!_pos bytes.data i hi, Array.getElem_toList]
    rw [ByteArray.toList.loop, if_pos hi, ih, List.drop_eq_getElem_cons hlength, hget]
    simp
  | case2 i done hi =>
    have hlength : bytes.data.toList.length ≤ i := Nat.le_of_not_lt hi
    rw [ByteArray.toList.loop, if_neg hi, List.drop_eq_nil_of_le hlength, List.append_nil]

/-- **Bytes** are determined by their list. -/
theorem toList_bytes_injective : Function.Injective ByteArray.toList := by
  have hlist (bytes : ByteArray) : bytes.toList = bytes.data.toList := by
    rw [ByteArray.toList, toList_loop]
    rfl
  intro a b h
  rw [hlist, hlist] at h
  exact ByteArray.ext (Array.toList_inj.mp h)

/-! ## Percent encoding -/

/-- A digit is read back. -/
theorem hexDigit?_upperHexDigit {value : Nat} (h : value < 16) :
    hexDigit? (upperHexDigit value) = some value := by
  have hall : ∀ digit : Fin 16, hexDigit? (upperHexDigit digit) = some digit.val := by decide
  exact hall ⟨value, h⟩

/-- A byte is read back from its character. -/
theorem ofNat_toNat_byte (byte : UInt8) : UInt8.ofNat (Char.ofNat byte.toNat).toNat = byte := by
  have hbyte := byte.toNat_lt
  have hvalid : byte.toNat.isValidChar := .inl (by omega)
  rw [Char.ofNat, dif_pos hvalid]
  exact UInt8.ofNat_toNat

/-- **One byte** is read back, with what follows it. -/
theorem decodePercent_percentByte (byte : UInt8) (rest : List Char) :
    decodePercent (percentByte byte ++ rest) = (decodePercent rest).map (byte :: ·) := by
  unfold percentByte
  split
  · next hbare =>
    have hpercent : Char.ofNat byte.toNat ≠ '%' := by
      intro h
      rw [staysBare, h] at hbare
      cases hbare
    rw [List.singleton_append, decodePercent.eq_3 _ _ (fun _ _ _ h _ => hpercent h),
      if_neg hpercent, ofNat_toNat_byte]
  · have hbyte := byte.toNat_lt
    have hhigh : byte.toNat / 16 < 16 := by omega
    have hlow : byte.toNat % 16 < 16 := by omega
    have hsum : byte.toNat / 16 * 16 + byte.toNat % 16 = byte.toNat := by omega
    show decodePercent ('%' :: upperHexDigit _ :: upperHexDigit _ :: rest) = _
    rw [decodePercent, hexDigit?_upperHexDigit hhigh, hexDigit?_upperHexDigit hlow]
    cases decodePercent rest with
    | none => rfl
    | some bytes =>
      show some (UInt8.ofNat (byte.toNat / 16 * 16 + byte.toNat % 16) :: bytes) = _
      rw [hsum, UInt8.ofNat_toNat]
      rfl

/-- **Bytes** are read back from their encoded form. -/
theorem decodePercent_flatMap (bytes : List UInt8) :
    decodePercent (bytes.flatMap percentByte) = some bytes := by
  induction bytes with
  | nil => rfl
  | cons byte rest ih => rw [List.flatMap_cons, decodePercent_percentByte, ih, Option.map_some]

/-- **A text** is read back from its encoded form, as its bytes. -/
theorem decodePercent_encodePercent (text : String) :
    decodePercent (encodePercent text).toList = some (toBytes text).toList := by
  rw [encodePercent, String.toList_ofList, decodePercent_flatMap]

/-- **Two texts of one encoded form** are one. -/
theorem encodePercent_injective : Function.Injective encodePercent := by
  intro a b h
  have hbytes : some (toBytes a).toList = some (toBytes b).toList := by
    rw [← decodePercent_encodePercent, ← decodePercent_encodePercent, h]
  have hbytes := toList_bytes_injective (Option.some.inj hbytes)
  have htext : some a = some b := by
    rw [← ofBytes?_toBytes, ← ofBytes?_toBytes, hbytes]
  exact Option.some.inj htext

end Text

/-- **Two paths of one URI** are one. -/
theorem Path.uri_injective : Function.Injective Path.uri := by
  intro p q h
  have hencoded : Text.encodePercent p.text = Text.encodePercent q.text := by
    rw [← String.toList_inj]
    have hlists := congrArg String.toList h
    simp only [Path.uri, String.toList_append] at hlists
    exact List.append_cancel_left hlists
  exact Path.text_injective (Text.encodePercent_injective hencoded)

end LspHost
