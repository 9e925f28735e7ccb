import Planwright.Text.Bytes
import Planwright.Value.Reader

set_option autoImplicit false

/-!
# Percent-encoding and its undoing

Percent-encoded text has no signs but unreserved ones and the percent sign
(`unreserved_of_mem_percentEncode`), so that none of the signs that an address is cut at stands in
it.  Decoding takes `%` with two hexadecimal digits for one byte and any other character for its own
bytes, and reads the bytes as UTF-8; it gives back what was encoded
(`percentDecode?_percentEncode`).
-/

namespace Planwright.Text

/-! ## Bytes -/

theorem toNat_lt (c : Char) : c.toNat < 0x110000 := by
  rcases c.valid with h | h
  · exact Nat.lt_trans h (by decide)
  · exact h.2

/-- The bytes of a character are those that strings are made of: the first of several bytes has room
for the bits that are left. -/
theorem map_charBytes (c : Char) : (charBytes c).map UInt8.ofNat = String.utf8EncodeChar c := by
  have hbound := toNat_lt c
  have hnumber : c.val.toNat = c.toNat := rfl
  unfold charBytes String.utf8EncodeChar
  simp only [hnumber]
  by_cases hone : c.toNat < 0x80
  · rw [if_pos hone, if_pos (Nat.le_of_lt_succ hone)]
    rfl
  rw [if_neg hone, if_neg (fun h => hone (Nat.lt_succ_of_le h))]
  by_cases htwo : c.toNat < 0x800
  · have hroom : c.toNat / 64 % 32 = c.toNat / 64 := by omega
    rw [if_pos htwo, if_pos (Nat.le_of_lt_succ htwo), hroom]
    simp [Nat.add_comm]
  rw [if_neg htwo, if_neg (fun h => htwo (Nat.lt_succ_of_le h))]
  by_cases hthree : c.toNat < 0x10000
  · have hroom : c.toNat / 4096 % 16 = c.toNat / 4096 := by omega
    rw [if_pos hthree, if_pos (Nat.le_of_lt_succ hthree), hroom]
    simp [Nat.add_comm]
  · have hroom : c.toNat / 262144 % 8 = c.toNat / 262144 := by omega
    rw [if_neg hthree, if_neg (fun h => hthree (Nat.lt_succ_of_le h)), hroom]
    simp [Nat.add_comm]

theorem lt_of_mem_charBytes {c : Char} {b : Nat} (h : b ∈ charBytes c) : b < 256 := by
  have hbound := toNat_lt c
  unfold charBytes at h
  dsimp only at h
  split at h
  · simp only [List.mem_cons, List.not_mem_nil, or_false] at h
    omega
  · split at h
    · simp only [List.mem_cons, List.not_mem_nil, or_false] at h
      omega
    · split at h <;> simp only [List.mem_cons, List.not_mem_nil, or_false] at h <;> omega

theorem toByteArray_bytes (s : List Char) :
    ((bytes s).map UInt8.ofNat).toByteArray = s.utf8Encode := by
  rw [bytes, List.map_flatMap, List.utf8Encode]
  simp only [map_charBytes]

/-! ## Signs -/

theorem upperHexDigit_unreserved : ∀ n < 16, isUnreserved (upperHexDigit n) = true := by decide

theorem hexValue?_upperHexDigit : ∀ n < 16, Value.hexValue? (upperHexDigit n) = some n := by decide

/-- Encoded text holds unreserved signs and percent signs only. -/
theorem unreserved_of_mem_percentEncode {s : List Char} {c : Char} (h : c ∈ percentEncode s) :
    isUnreserved c = true ∨ c = '%' := by
  obtain ⟨d, -, hd⟩ := List.mem_flatMap.1 h
  unfold percentChar at hd
  split at hd
  · next hkept =>
    obtain rfl := List.mem_singleton.1 hd
    exact .inl hkept
  · obtain ⟨b, hb, hc⟩ := List.mem_flatMap.1 hd
    have hbyte := lt_of_mem_charBytes hb
    simp only [percentByte, List.mem_cons, List.not_mem_nil, or_false] at hc
    rcases hc with rfl | rfl | rfl
    · exact .inr rfl
    · exact .inl (upperHexDigit_unreserved _ (by omega))
    · exact .inl (upperHexDigit_unreserved _ (by omega))

/-- A sign that is neither unreserved nor the percent sign is not in encoded text. -/
theorem not_mem_percentEncode {c : Char} (hreserved : isUnreserved c = false) (hpercent : c ≠ '%')
    (s : List Char) : c ∉ percentEncode s := by
  intro h
  rcases unreserved_of_mem_percentEncode h with hkept | hc
  · rw [hreserved] at hkept
    cases hkept
  · exact hpercent hc

/-! ## Decoding -/

/-- The value of two hexadecimal digits. -/
def hexPair? (high low : Char) : Option Nat :=
  match Value.hexValue? high, Value.hexValue? low with
  | some h, some l => some (16 * h + l)
  | _, _ => none

/-- The bytes that an encoded text stands for.  A percent sign without two hexadecimal digits behind
it stands for itself. -/
def percentBytes : List Char → List Nat
  | '%' :: high :: low :: rest =>
    match hexPair? high low with
    | some b => b :: percentBytes rest
    | none => charBytes '%' ++ percentBytes (high :: low :: rest)
  | c :: rest => charBytes c ++ percentBytes rest
  | [] => []

/-- The text that an encoded text stands for, if its bytes are the UTF-8 bytes of a text. -/
def percentDecode? (s : List Char) : Option String :=
  String.fromUTF8? ((percentBytes s).map UInt8.ofNat).toByteArray

theorem percentBytes_of_ne {c : Char} (h : c ≠ '%') (rest : List Char) :
    percentBytes (c :: rest) = charBytes c ++ percentBytes rest := by
  rw [percentBytes]
  simp [h]

theorem percentBytes_percentByte {b : Nat} (hb : b < 256) (rest : List Char) :
    percentBytes (percentByte b ++ rest) = b :: percentBytes rest := by
  have hhigh := hexValue?_upperHexDigit (b / 16) (by omega)
  have hlow := hexValue?_upperHexDigit (b % 16) (by omega)
  have hpair : hexPair? (upperHexDigit (b / 16)) (upperHexDigit (b % 16)) = some b := by
    rw [hexPair?, hhigh, hlow]
    exact congrArg some (Nat.div_add_mod b 16)
  simp only [percentByte, List.cons_append, List.nil_append, percentBytes, hpair]

theorem percentBytes_flatMap {bs : List Nat} (h : ∀ b ∈ bs, b < 256) (rest : List Char) :
    percentBytes (bs.flatMap percentByte ++ rest) = bs ++ percentBytes rest := by
  induction bs with
  | nil => rfl
  | cons b bs ih =>
      obtain ⟨hb, hbs⟩ := List.forall_mem_cons.1 h
      rw [List.flatMap_cons, List.append_assoc, percentBytes_percentByte hb, ih hbs,
        List.cons_append]

theorem percentBytes_percentChar (c : Char) (rest : List Char) :
    percentBytes (percentChar c ++ rest) = charBytes c ++ percentBytes rest := by
  unfold percentChar
  split
  · next hkept =>
    have hne : c ≠ '%' := by
      rintro rfl
      revert hkept
      decide
    exact percentBytes_of_ne hne rest
  · exact percentBytes_flatMap (fun b hb => lt_of_mem_charBytes hb) rest

theorem percentBytes_percentEncode (s : List Char) : percentBytes (percentEncode s) = bytes s := by
  induction s with
  | nil => rfl
  | cons c s ih =>
      have hcons : percentEncode (c :: s) = percentChar c ++ percentEncode s := rfl
      rw [hcons, percentBytes_percentChar, ih]
      rfl

/-- Decoding gives back what was encoded. -/
theorem percentDecode?_percentEncode (s : String) :
    percentDecode? (percentEncode s.toList) = some s := by
  rw [percentDecode?, percentBytes_percentEncode, toByteArray_bytes, String.utf8Encode_toList]
  unfold String.fromUTF8?
  rw [dif_pos s.isValidUTF8]
  rfl

end Planwright.Text
