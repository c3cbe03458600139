import ApiMapping.Number.Notation
import ApiMapping.Proofs.Number.Shortest
import ApiMapping.Proofs.Text.Numeral
import Mathlib.Data.List.TakeWhile

/-!
# Notation keeps the value

However the digits of a number are laid out, around a point or with an exponent, they stand for
the decimal that they were taken from.
-/

namespace ApiMapping
namespace Number

/-- What digits around a point stand for, scaled by a power of ten. -/
theorem value_decimalOf {whole fraction : List Char}
    (h : ∀ c ∈ whole ++ fraction, c.isDigit = true) (power : Int) :
    (decimalOf whole fraction power).value =
      (Nat.ofDigitChars 10 (whole ++ fraction) 0 : Nat) * 10 ^ (power - fraction.length) := by
  have hdigits : (whole ++ fraction).filterMap Text.digit? =
      (whole ++ fraction).map fun c => c.toNat - '0'.toNat := by
    rw [← List.filterMap_eq_map]
    refine List.filterMap_congr fun c hc => ?_
    rw [Text.digit?_eq_ite, if_pos (h c hc)]
    rfl
  rw [Decimal.value, decimalOf, hdigits, Text.ofDigits_map]

/-- Digits without a zero in front, and the exponent of the first one. -/
structure Significant (ds : List Char) (e : Int) (v : ℚ) : Prop where
  nonempty : ds ≠ []
  digits : ∀ c ∈ ds, c.isDigit = true
  leading : ds.head? ≠ some '0'
  value : v = (Nat.ofDigitChars 10 ds 0 : Nat) * 10 ^ (e + 1 - ds.length)

theorem ofDigitChars_lt {ds : List Char} (h : ∀ c ∈ ds, c.isDigit = true) (n : Nat) :
    Nat.ofDigitChars 10 ds n < 10 ^ ds.length * (n + 1) := by
  induction ds generalizing n with
  | nil => simp
  | cons c ds ih =>
    rw [List.forall_mem_cons] at h
    have hdigit := Text.sub_lt_ten_of_isDigit h.1
    rw [Nat.ofDigitChars_cons, List.length_cons, pow_succ, mul_assoc]
    refine (ih h.2 _).trans_le (Nat.mul_le_mul_left _ ?_)
    omega

theorem Significant.value_lt {ds : List Char} {e : Int} {v : ℚ} (h : Significant ds e v) :
    v < 10 ^ (e + 1) := by
  have hlt : (Nat.ofDigitChars 10 ds 0 : ℚ) < 10 ^ (ds.length : Int) := by
    have hnat := ofDigitChars_lt h.digits 0
    rw [Nat.zero_add, Nat.mul_one] at hnat
    rw [zpow_natCast]
    exact_mod_cast hnat
  calc v = (Nat.ofDigitChars 10 ds 0 : Nat) * 10 ^ (e + 1 - ds.length) := h.value
    _ < 10 ^ (ds.length : Int) * 10 ^ (e + 1 - ds.length) :=
        mul_lt_mul_of_pos_right hlt (by positivity)
    _ = 10 ^ (e + 1) := by
        rw [← zpow_add₀ (by norm_num)]
        congr 1
        omega

/-- Only zeros are cut from the end. -/
theorem exists_significant_append (d : Decimal) :
    ∃ n, Text.ofNat d.digits = (significant d).1 ++ List.replicate n '0' := by
  generalize hcut : (Text.ofNat d.digits).reverse.takeWhile (· == '0') = cut
  have hzeros : cut = List.replicate cut.length '0' := by
    refine List.eq_replicate_length.mpr fun c hc => ?_
    rw [← hcut] at hc
    have hzero := List.mem_takeWhile_imp hc
    exact eq_of_beq hzero
  refine ⟨cut.length, ?_⟩
  calc Text.ofNat d.digits
      = (cut ++ (Text.ofNat d.digits).reverse.dropWhile (· == '0')).reverse := by
        rw [← hcut, List.takeWhile_append_dropWhile, List.reverse_reverse]
    _ = (significant d).1 ++ cut.reverse := List.reverse_append
    _ = (significant d).1 ++ List.replicate cut.length '0' := by
        conv_lhs => rw [hzeros, List.reverse_replicate]

theorem significant_spec {d : Decimal} (h : 0 < d.digits) :
    Significant (significant d).1 (significant d).2 d.value := by
  obtain ⟨n, hn⟩ := exists_significant_append d
  have hfirst : (significant d).2 = d.exponent + (Text.ofNat d.digits).length - 1 := rfl
  have hleading := Text.head?_ofNat_ne_zero h
  have hnonempty : (significant d).1 ≠ [] := by
    intro hnil
    rw [hn, hnil, List.nil_append, List.head?_replicate] at hleading
    split at hleading
    · rename_i hzero
      rw [hnil, hzero] at hn
      exact Text.ofNat_ne_nil _ hn
    · exact hleading rfl
  refine ⟨hnonempty, fun c hc => ?_, ?_, ?_⟩
  · refine Text.isDigit_of_mem_ofNat (n := d.digits) ?_
    rw [hn]
    exact List.mem_append_left _ hc
  · rwa [hn, List.head?_append_of_ne_nil _ hnonempty] at hleading
  · have hdigits : d.digits = 10 ^ n * Nat.ofDigitChars 10 (significant d).1 0 := by
      have hread : Nat.ofDigitChars 10 (Text.ofNat d.digits) 0 = d.digits :=
        Nat.ofDigitChars_ten_toDigits
      rw [hn, Nat.ofDigitChars_append, Nat.ofDigitChars_replicate_zero] at hread
      exact hread.symm
    have hlength : (Text.ofNat d.digits).length = (significant d).1.length + n := by
      rw [hn, List.length_append, List.length_replicate]
    have hexponent : (significant d).2 + 1 - ((significant d).1.length : Int) = d.exponent + n := by
      omega
    rw [hexponent, Decimal.value, zpow_add₀ (by norm_num), zpow_natCast]
    conv_lhs => rw [hdigits]
    push_cast
    ring

/-! ## Layouts -/

/-- The digits before a point. A zero in front stands alone. -/
structure Whole (ds : List Char) : Prop where
  nonempty : ds ≠ []
  digits : ∀ c ∈ ds, c.isDigit = true
  leading : ds.head? = some '0' → ds = ['0']

theorem whole_ofNat (n : Nat) : Whole (Text.ofNat n) where
  nonempty := Text.ofNat_ne_nil n
  digits _ := Text.isDigit_of_mem_ofNat
  leading h := by
    rcases Nat.eq_zero_or_pos n with rfl | hn
    · rfl
    · exact absurd h (Text.head?_ofNat_ne_zero hn)

section Layout

variable {ds : List Char} {e : Int} {v : ℚ}

/-- Digits that start with one other than zero may stand before a point. -/
theorem Significant.whole_append_zeros (h : Significant ds e v) (n : Nat) :
    Whole (ds ++ List.replicate n '0') := by
  refine ⟨List.append_ne_nil_of_left_ne_nil h.nonempty _, fun c hc => ?_, fun hzero => ?_⟩
  · rcases List.mem_append.mp hc with hc | hc
    · exact h.digits c hc
    · rw [List.eq_of_mem_replicate hc]
      rfl
  · rw [List.head?_append_of_ne_nil _ h.nonempty] at hzero
    exact absurd hzero h.leading

theorem Significant.whole_take (h : Significant ds e v) (n : Nat) : Whole (ds.take (n + 1)) := by
  refine ⟨by simpa using h.nonempty, fun c hc => h.digits c (List.mem_of_mem_take hc),
    fun hzero => ?_⟩
  rw [List.head?_take, if_neg (Nat.succ_ne_zero n)] at hzero
  exact absurd hzero h.leading

/-- A part of the digits before the point and the others behind it. -/
theorem Significant.value_split (h : Significant ds e v) {n : Nat} {power : Int}
    (hpower : power - (ds.drop n).length = e + 1 - ds.length) :
    (decimalOf (ds.take n) (ds.drop n) power).value = v := by
  have hdigits : ∀ c ∈ ds.take n ++ ds.drop n, c.isDigit = true := by
    rw [List.take_append_drop]
    exact h.digits
  rw [value_decimalOf hdigits, List.take_append_drop, hpower, h.value]

/-- The digits of a text before and behind its point, and its exponent. -/
inductive Laid (whole fraction : List Char) : Int → List Char → Prop where
  | pointed (hwhole : Whole whole) (hfraction : ∀ c ∈ fraction, c.isDigit = true)
      (hne : fraction ≠ []) : Laid whole fraction 0 (whole ++ '.' :: fraction)
  | scientific (hwhole : Whole whole) (hfraction : ∀ c ∈ fraction, c.isDigit = true) (e : Int) :
    Laid whole fraction e (whole ++ (if fraction = [] then [] else '.' :: fraction) ++
      'e' :: (if e < 0 then '-' else '+') :: Text.ofNat e.natAbs)

/-- All digits behind the point. -/
theorem Significant.exists_laid_of_neg (h : Significant ds e v) (he : e < 0) :
    ∃ whole fraction, Laid whole fraction 0
        ('0' :: '.' :: (List.replicate (-e - 1).toNat '0' ++ ds)) ∧
      (decimalOf whole fraction 0).value = v ∧ (fraction.length : Int) = ds.length - 1 - e := by
  have hdigits : ∀ c ∈ List.replicate (-e - 1).toNat '0' ++ ds, c.isDigit = true := by
    intro c hc
    rcases List.mem_append.mp hc with hc | hc
    · rw [List.eq_of_mem_replicate hc]
      rfl
    · exact h.digits c hc
  have hlength : ((List.replicate (-e - 1).toNat '0' ++ ds).length : Int) = ds.length - 1 - e := by
    rw [List.length_append, List.length_replicate]
    omega
  have hexponent : (0 : Int) - (ds.length - 1 - e) = e + 1 - ds.length := by omega
  have hzero : Whole ['0'] := whole_ofNat 0
  refine ⟨['0'], _, .pointed hzero hdigits
    (List.append_ne_nil_of_right_ne_nil _ h.nonempty), ?_, hlength⟩
  rw [value_decimalOf (List.forall_mem_append.mpr ⟨hzero.digits, hdigits⟩), h.value,
    hlength, hexponent, Nat.ofDigitChars_append, Nat.ofDigitChars_append,
    Nat.ofDigitChars_replicate_zero]
  rfl

/-- All digits before the point, with zeros up to it. -/
theorem Significant.exists_laid_of_length_le (h : Significant ds e v) (he : 0 ≤ e)
    (hle : ds.length ≤ e.toNat + 1) :
    ∃ whole fraction, Laid whole fraction 0
        (ds ++ List.replicate (e.toNat + 1 - ds.length) '0' ++ ['.', '0']) ∧
      (decimalOf whole fraction 0).value = v ∧ fraction.length = 1 := by
  have hwhole := h.whole_append_zeros (e.toNat + 1 - ds.length)
  have hdigits : ∀ c ∈ ds ++ List.replicate (e.toNat + 1 - ds.length) '0' ++ ['0'],
      c.isDigit = true := by
    intro c hc
    rcases List.mem_append.mp hc with hc | hc
    · exact hwhole.digits c hc
    · rw [List.mem_singleton.mp hc]
      rfl
  have hexponent : e + 1 - ds.length = ((e.toNat + 1 - ds.length : Nat) : Int) := by omega
  have hpower : (10 : ℚ) ^ ((0 : Int) - (['0'] : List Char).length) = 10⁻¹ := by norm_num
  refine ⟨_, ['0'], .pointed hwhole (by simp) (List.cons_ne_nil _ _), ?_, rfl⟩
  rw [value_decimalOf hdigits, h.value, hexponent, zpow_natCast, hpower, List.append_assoc,
    ← List.replicate_succ', Nat.ofDigitChars_append, Nat.ofDigitChars_replicate_zero]
  push_cast
  rw [pow_succ]
  field_simp

/-- The point among the digits. -/
theorem Significant.exists_laid_of_lt_length (h : Significant ds e v) (he : 0 ≤ e)
    (hlt : e.toNat + 1 < ds.length) :
    ∃ whole fraction, Laid whole fraction 0
        (ds.take (e.toNat + 1) ++ '.' :: ds.drop (e.toNat + 1)) ∧
      (decimalOf whole fraction 0).value = v ∧ (fraction.length : Int) = ds.length - 1 - e := by
  have hlength : ((ds.drop (e.toNat + 1)).length : Int) = ds.length - 1 - e := by
    rw [List.length_drop]
    omega
  refine ⟨_, _, .pointed (h.whole_take _) (fun c hc => h.digits c (List.mem_of_mem_drop hc))
    (by simpa using hlt), h.value_split ?_, hlength⟩
  omega

theorem Significant.exists_laid_positional (h : Significant ds e v) :
    ∃ whole fraction, Laid whole fraction 0 (positional ds e) ∧
      (decimalOf whole fraction 0).value = v ∧
        (fraction.length : Int) = max (ds.length - 1 - e) 1 := by
  have hpos := List.length_pos_iff.mpr h.nonempty
  unfold positional
  dsimp only
  split
  · rename_i he
    obtain ⟨whole, fraction, hlaid, hvalue, hlength⟩ := h.exists_laid_of_neg he
    exact ⟨whole, fraction, hlaid, hvalue, by omega⟩
  · rename_i he
    rw [Int.not_lt] at he
    split
    · rename_i hle
      obtain ⟨whole, fraction, hlaid, hvalue, hlength⟩ := h.exists_laid_of_length_le he hle
      exact ⟨whole, fraction, hlaid, hvalue, by omega⟩
    · rename_i hlt
      rw [Nat.not_le] at hlt
      obtain ⟨whole, fraction, hlaid, hvalue, hlength⟩ := h.exists_laid_of_lt_length he hlt
      exact ⟨whole, fraction, hlaid, hvalue, by omega⟩

/-- One digit before the point, and an exponent. -/
theorem Significant.exists_laid_scientific (h : Significant ds e v) :
    ∃ whole fraction, Laid whole fraction e (scientific ds e) ∧
      (decimalOf whole fraction e).value = v ∧ (fraction.length : Int) = ds.length - 1 := by
  have hpos := List.length_pos_iff.mpr h.nonempty
  have hlength : ((ds.drop 1).length : Int) = ds.length - 1 := by
    rw [List.length_drop]
    omega
  have hfraction : ∀ c ∈ ds.drop 1, c.isDigit = true :=
    fun c hc => h.digits c (List.mem_of_mem_drop hc)
  have hlaid := Laid.scientific (h.whole_take 0) hfraction e
  refine ⟨_, _, ?_, h.value_split ?_, hlength⟩
  · convert hlaid using 1
    unfold scientific
    cases ds.drop 1 <;> simp
  · omega

end Layout

end Number
end ApiMapping
