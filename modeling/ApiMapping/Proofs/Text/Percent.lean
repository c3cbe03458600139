import ApiMapping.Text.Digits

/-!
# Percent encoding and back

What is written byte by byte is read byte by byte: a byte that stands for itself as its
ASCII character, and every other byte from its two digits. So an encoded text reads back
as itself, and no sign that has a meaning elsewhere stands in it.
-/

namespace ApiMapping
namespace Text

theorem hexValue?_hexDigit : ∀ n < 16, hexValue? (hexDigit n) = some n := by decide

theorem utf8EncodeChar_of_ascii {c : Char} (h : c.toNat < 0x80) :
    String.utf8EncodeChar c = [UInt8.ofNat c.toNat] :=
  if_pos (Nat.le_of_lt_succ h)

theorem toNat_ofNat_byte (b : UInt8) : (Char.ofNat b.toNat).toNat = b.toNat := by
  have hb := b.toNat_lt
  have hvalid : b.toNat.isValidChar := Or.inl (by omega)
  have hchar : Char.ofNat b.toNat = Char.ofNatAux b.toNat hvalid := dif_pos hvalid
  rw [hchar]
  rfl

theorem toNat_lt_of_isAlphanum {c : Char} (h : c.isAlphanum = true) : c.toNat < 0x80 := by
  have hclass : (c.isUpper || c.isLower || c.isDigit) = true := h
  rw [Bool.or_eq_true, Bool.or_eq_true] at hclass
  rcases hclass with (hupper | hlower) | hdigit
  · have hle := UInt32.le_iff_toNat_le.mp (of_decide_eq_true hupper).2
    exact Nat.lt_of_le_of_lt hle (by decide)
  · have hle := UInt32.le_iff_toNat_le.mp (of_decide_eq_true (Bool.and_eq_true_iff.mp hlower).2)
    exact Nat.lt_of_le_of_lt hle (by decide)
  · have hle := (Char.isDigit_iff_toNat.mp hdigit).2
    exact Nat.lt_of_le_of_lt hle (by decide)

/-- Only ASCII characters stand for themselves. -/
theorem lt_of_isUnreserved {b : UInt8} (h : isUnreserved b = true) : b.toNat < 0x80 := by
  rw [← toNat_ofNat_byte b]
  simp only [isUnreserved, Bool.or_eq_true, beq_iff_eq] at h
  rcases h with (((h | h) | h) | h) | h
  · exact toNat_lt_of_isAlphanum h
  all_goals
    rw [h]
    decide

theorem ofNat_ne_of_isUnreserved {b : UInt8} {c : Char} (h : isUnreserved b = true)
    (hc : isUnreserved (UInt8.ofNat c.toNat) = false) : Char.ofNat b.toNat ≠ c := by
  rintro rfl
  rw [toNat_ofNat_byte, UInt8.ofNat_toNat, h] at hc
  cases hc

theorem unescapeBytes_cons_of_ne {c : Char} (h : c ≠ '%') (rest : List Char) :
    unescapeBytes (c :: rest) = String.utf8EncodeChar c ++ unescapeBytes rest :=
  unescapeBytes.eq_2 c rest fun _ _ _ hc _ => h hc

theorem unescapeBytes_escapeByte (b : UInt8) (rest : List Char) :
    unescapeBytes (escapeByte b ++ rest) = b :: unescapeBytes rest := by
  unfold escapeByte
  split
  · rename_i h
    have hascii : (Char.ofNat b.toNat).toNat < 0x80 := by
      rw [toNat_ofNat_byte]
      exact lt_of_isUnreserved h
    rw [List.singleton_append, unescapeBytes_cons_of_ne (ofNat_ne_of_isUnreserved h (by decide)),
      utf8EncodeChar_of_ascii hascii, toNat_ofNat_byte, UInt8.ofNat_toNat, List.singleton_append]
  · have hb := b.toNat_lt
    simp only [List.cons_append, List.nil_append]
    rw [unescapeBytes.eq_1, hexValue?_hexDigit _ (by omega), hexValue?_hexDigit _ (by omega)]
    simp only [Nat.div_add_mod, UInt8.ofNat_toNat]

theorem unescapeBytes_percentEncode (cs : List Char) :
    unescapeBytes (percentEncode cs) = utf8 cs := by
  unfold percentEncode
  induction utf8 cs with
  | nil => rfl
  | cons b bs ih => rw [List.flatMap_cons, unescapeBytes_escapeByte, ih]

/-- Reading undoes writing. -/
theorem percentDecode?_percentEncode (cs : List Char) :
    percentDecode? (percentEncode cs) = some cs := by
  have hbytes : ByteArray.mk (utf8 cs).toArray = cs.utf8Encode := by
    apply ByteArray.ext
    apply Array.toList_inj.mp
    rw [List.utf8Encode, List.toList_data_toByteArray]
    rfl
  rw [percentDecode?, unescapeBytes_percentEncode, hbytes, List.utf8Decode?_utf8Encode]
  rfl

theorem not_mem_escapeByte {c : Char} (hp : c ≠ '%') (hd : ∀ n < 16, hexDigit n ≠ c)
    (hu : isUnreserved (UInt8.ofNat c.toNat) = false) (b : UInt8) : c ∉ escapeByte b := by
  have hb := b.toNat_lt
  unfold escapeByte
  split
  · rename_i h
    simpa using (ofNat_ne_of_isUnreserved h hu).symm
  · simp [hp, (hd (b.toNat / 16) (by omega)).symm, (hd (b.toNat % 16) (by omega)).symm]

/-- A sign that is neither unreserved nor of an escape is not written. -/
theorem not_mem_percentEncode {c : Char} (hp : c ≠ '%') (hd : ∀ n < 16, hexDigit n ≠ c)
    (hu : isUnreserved (UInt8.ofNat c.toNat) = false) (cs : List Char) : c ∉ percentEncode cs := by
  simp only [percentEncode, List.mem_flatMap, not_exists, not_and]
  intro b _
  exact not_mem_escapeByte hp hd hu b

end Text
end ApiMapping
