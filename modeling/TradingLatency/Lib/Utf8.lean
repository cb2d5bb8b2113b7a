import Mathlib.Data.List.Basic

/-!
# Utf8 — the bytes of a text, each as a character of its own

Programs that keep a text as a string of bytes, and programs that keep it as a string
of characters, meet on the wire. `decode_encode` is the way from the ones to the
others, and `encode_ascii` says that both are the same for ASCII.
-/

namespace Utf8

/-- The bytes of some characters. -/
def encode (chars : List Char) : List Char :=
  (chars.flatMap String.utf8EncodeChar).map fun byte => Char.ofNat byte.toNat

/-- The characters of some bytes, where they are UTF-8. -/
def decode (bytes : List Char) : Option (List Char) :=
  (bytes.map fun c => c.toNat.toUInt8).toByteArray.utf8Decode?.map Array.toList

theorem toNat_ofNat_byte (byte : UInt8) : (Char.ofNat byte.toNat).toNat.toUInt8 = byte := by
  have hlt := byte.toNat_lt
  have hvalid : byte.toNat.isValidChar := .inl (by omega)
  have hnat : (Char.ofNat byte.toNat).toNat = byte.toNat := by
    rw [Char.ofNat, dif_pos hvalid]
    rfl
  rw [hnat]
  exact UInt8.ofNat_toNat

theorem decode_encode (chars : List Char) : decode (encode chars) = some chars := by
  have hbytes : (encode chars).map (fun c => c.toNat.toUInt8) =
      chars.flatMap String.utf8EncodeChar := by
    rw [encode, List.map_map]
    refine List.map_id'' ?_ _
    exact toNat_ofNat_byte
  have hdecode : (chars.flatMap String.utf8EncodeChar).toByteArray.utf8Decode? =
      some chars.toArray := List.utf8Decode?_utf8Encode
  rw [decode, hbytes, hdecode, Option.map_some]

theorem encode_append (xs ys : List Char) : encode (xs ++ ys) = encode xs ++ encode ys := by
  rw [encode, List.flatMap_append, List.map_append]
  rfl

theorem encode_flatten (xss : List (List Char)) :
    encode xss.flatten = (xss.map encode).flatten := by
  induction xss with
  | nil => rfl
  | cons xs xss ih => rw [List.flatten_cons, encode_append, ih, List.map_cons, List.flatten_cons]

/-- An ASCII character is its own byte. -/
theorem encode_ascii {chars : List Char} (h : (chars.all fun c => c.toNat < 128) = true) :
    encode chars = chars := by
  induction chars with
  | nil => rfl
  | cons c chars ih =>
    rw [List.all_cons, Bool.and_eq_true, decide_eq_true_eq] at h
    rcases h with ⟨hc, hchars⟩
    have hchar : encode [c] = [c] := by
      have hval : c.val.toNat ≤ 0x7f := Nat.le_of_lt_succ hc
      have hbyte : (UInt8.ofNat c.val.toNat).toNat = c.toNat :=
        UInt8.toNat_ofNat_of_lt (by show c.toNat < 256; omega)
      rw [encode, List.flatMap_singleton, String.utf8EncodeChar, if_pos hval, List.map_singleton,
        hbyte, Char.ofNat_toNat]
    rw [← List.singleton_append, encode_append, ih hchars, hchar]

end Utf8
