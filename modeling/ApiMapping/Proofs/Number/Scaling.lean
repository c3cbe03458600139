import ApiMapping.Proofs.Number.Notation

/-!
# Decimals that are scaled

Scaling the digits by a power of ten may round more than once. If the digits have at most 53 bits
and the power is at most the twenty-second, then both are numbers without being rounded, and the
decimal is read as the number that it rounds to.
-/

namespace ApiMapping
namespace Number

/-! ## Digits that are kept -/

section Digits

variable {n : Nat} {ds : List Nat}

theorem le_foldl_digits (n : Nat) (ds : List Nat) : n ≤ ds.foldl (fun n d => 10 * n + d) n := by
  induction ds generalizing n with
  | nil => exact le_rfl
  | cons d ds ih =>
    have hrest := ih (10 * n + d)
    rw [List.foldl_cons]
    omega

/-- Digits of a number that fits are all kept. -/
theorem keepDigits_of_lt (h : ds.foldl (fun n d => 10 * n + d) n < UInt64.size) :
    keepDigits n ds = (ds.foldl (fun n d => 10 * n + d) n, []) := by
  induction ds generalizing n with
  | nil => rfl
  | cons d ds ih =>
    rw [List.foldl_cons] at h ⊢
    rw [keepDigits, if_pos ((le_foldl_digits _ ds).trans_lt h), ih h]

theorem keptDecimal_eq_decimalOf {whole fraction : List Char} {power : Int}
    (h : (decimalOf whole fraction power).digits < UInt64.size) :
    keptDecimal whole fraction power = decimalOf whole fraction power := by
  unfold decimalOf Text.ofDigits at h ⊢
  dsimp only at h
  rw [List.filterMap_append, List.foldl_append] at h ⊢
  unfold keptDecimal
  rw [keepDigits_of_lt ((le_foldl_digits _ _).trans_lt h)]
  dsimp only
  rw [keepDigits_of_lt h]
  simp

end Digits

namespace Binary64

variable {x y z : Binary64} {num den : Nat}

/-! ## The form of a result -/

theorem mantissa_pos_of_nearest? {negative : Bool} (hnum : 0 < num) (hden : 0 < den)
    (hone : den ≤ num) (h : nearest? negative num den = some x) : 0 < x.mantissa := by
  have hratio : (1 : ℚ) ≤ num / den := by
    rw [one_le_div (by exact_mod_cast hden)]
    exact_mod_cast hone
  obtain ⟨hlow, hhigh⟩ := scaleOf_spec hnum hden
  have hscale : leastExponent ≤ scaleOf num den := by
    have hpos : (2 : ℚ) ^ (0 : Int) < 2 ^ (scaleOf num den + 53) := by
      rw [zpow_zero]
      exact hratio.trans_lt hhigh
    rw [zpow_lt_zpow_iff_right₀ one_lt_two] at hpos
    rw [leastExponent]
    omega
  have hmantissa := le_roundDiv_scaled hden hlow
  unfold nearest? at h
  rw [if_neg (Nat.pos_iff_ne_zero.mp hnum), max_eq_left hscale] at h
  dsimp only at h
  split at h <;> split at h <;> cases h
  · exact Nat.pow_pos Nat.two_pos
  · exact (Nat.pow_pos Nat.two_pos).trans_le hmantissa

theorem mantissa_pos_of_powerOfTen? {k : Nat} (h : powerOfTen? k = some x) : 0 < x.mantissa := by
  unfold powerOfTen? at h
  split at h
  · have hpos : 0 < Nat.pow 10 k := Nat.pow_pos (by decide)
    exact mantissa_pos_of_nearest? hpos Nat.one_pos hpos h
  · cases h

theorem canonical_of_mul? (h : x.mul? y = some z) : z.Canonical :=
  canonical_of_nearest? (Nat.pow_pos Nat.two_pos) h

theorem canonical_of_div? (hy : 0 < y.mantissa) (h : x.div? y = some z) : z.Canonical :=
  canonical_of_nearest? (Nat.mul_pos hy (Nat.pow_pos Nat.two_pos)) h

theorem canonical_of_scaleByTen? {e : Int} (hx : x.Canonical) (h : x.scaleByTen? e = some z) :
    z.Canonical := by
  unfold scaleByTen? at h
  split at h
  · split at h
    · exact Option.some.inj h ▸ hx
    · obtain ⟨p, -, hmul⟩ := Option.bind_eq_some_iff.mp h
      exact canonical_of_mul? hmul
  · obtain ⟨y, -, hscaled⟩ := Option.bind_eq_some_iff.mp h
    obtain ⟨p, hp, hdiv⟩ := Option.bind_eq_some_iff.mp hscaled
    exact canonical_of_div? (mantissa_pos_of_powerOfTen? hp) hdiv

/-- The first powers are the table's, without further steps. -/
theorem scaleByTen?_of_small {e : Int} {p : Binary64} (he : e.natAbs ≤ 22)
    (hp : powerOfTen? e.natAbs = some p) (hx : x.mantissa ≠ 0) :
    x.scaleByTen? e = if 0 ≤ e then x.mul? p else x.div? p := by
  unfold scaleByTen?
  by_cases hnonneg : 0 ≤ e
  · have hnat : e.toNat = e.natAbs := by omega
    rw [if_pos hnonneg, if_pos hnonneg, if_neg hx, hnat, hp]
    rfl
  · have hsteps : (e.natAbs - 1) / 308 = 0 := by omega
    rw [if_neg hnonneg, if_neg hnonneg]
    dsimp only
    rw [hsteps, Nat.mul_zero, Nat.sub_zero, hp]
    rfl

/-! ## Numbers that need no rounding -/

/-- The mantissa is doubled until it has all its bits or the exponent is the least. -/
theorem exists_canonical {m : Nat} {e : Int} (hm : m < Nat.pow 2 53) (hleast : leastExponent ≤ e)
    (hgreatest : e ≤ greatestExponent) : ∃ x : Binary64, x.Canonical ∧ x.size = m * 2 ^ e := by
  obtain ⟨k, rfl⟩ : ∃ k : Nat, e = leastExponent + k :=
    ⟨(e - leastExponent).toNat, by omega⟩
  induction k generalizing m with
  | zero =>
    have hrange : leastExponent ≤ greatestExponent := by decide
    exact ⟨⟨false, m, leastExponent⟩, ⟨hm, le_rfl, hrange, .inr rfl⟩, by simp [size]⟩
  | succ k ih =>
    by_cases hfull : Nat.pow 2 52 ≤ m
    · exact ⟨⟨false, m, _⟩, ⟨hm, hleast, hgreatest, .inl hfull⟩, rfl⟩
    · have hdouble : 2 * m < Nat.pow 2 53 := by
        change ¬ 2 ^ 52 ≤ m at hfull
        change 2 * m < 2 ^ 53
        omega
      obtain ⟨x, hx, hsize⟩ := ih hdouble (by omega) (by omega)
      refine ⟨x, hx, hsize.trans ?_⟩
      push_cast
      rw [← add_assoc, zpow_add_one₀ two_ne_zero]
      ring

theorem rounds_size (x : Binary64) : x.Rounds x.size := by
  have hpow : (0 : ℚ) < 2 ^ x.exponent := by positivity
  refine rounds_of_inside (mul_lt_mul_of_pos_right ?_ hpow) (mul_lt_mul_of_pos_right ?_ hpow)
  · linarith [x.gapBelow_pos]
  · linarith

/-- A ratio that is a number is rounded to that number. -/
theorem exists_nearest? {m : Nat} {e : Int} (hnum : 0 < num) (hden : 0 < den)
    (hm : m < Nat.pow 2 53) (hleast : leastExponent ≤ e) (hgreatest : e ≤ greatestExponent)
    (hratio : (num : ℚ) / den = m * 2 ^ e) (negative : Bool) :
    ∃ x, nearest? negative num den = some x ∧ x.negative = negative ∧ x.size = num / den := by
  obtain ⟨x, hx, hsize⟩ := exists_canonical hm hleast hgreatest
  rw [← hratio] at hsize
  exact ⟨_, nearest?_of_rounds hnum hden hx (hsize ▸ x.rounds_size) negative, rfl, hsize⟩

theorem mantissa_pos_of_size_pos (h : 0 < x.size) : 0 < x.mantissa := by
  refine Nat.pos_of_ne_zero fun hzero => ?_
  rw [size, hzero, Nat.cast_zero, zero_mul] at h
  exact absurd h (lt_irrefl 0)

/-- The first powers of ten have no more than 53 bits before their zeros. -/
theorem exists_powerOfTen? {k : Nat} (hk : k ≤ 22) :
    ∃ p, powerOfTen? k = some p ∧ p.negative = false ∧ p.size = 10 ^ k := by
  have hfive : 5 ^ k < Nat.pow 2 53 := by
    calc 5 ^ k ≤ 5 ^ 22 := Nat.pow_le_pow_right (by decide) hk
      _ < Nat.pow 2 53 := by decide
  have hten : ((Nat.pow 10 k : Nat) : ℚ) / (1 : Nat) = 10 ^ k := by
    push_cast [Nat.pow_eq]
    rw [div_one]
  have hratio : ((Nat.pow 10 k : Nat) : ℚ) / (1 : Nat) = (5 ^ k : Nat) * 2 ^ (k : Int) := by
    rw [hten, zpow_natCast]
    push_cast
    rw [← mul_pow]
    norm_num
  have hpos : 0 < Nat.pow 10 k := Nat.pow_pos (by decide)
  obtain ⟨p, hp, hnegative, hsize⟩ := exists_nearest? hpos Nat.one_pos hfive
    (by rw [leastExponent]; omega) (by rw [greatestExponent]; omega) hratio false
  refine ⟨p, ?_, hnegative, hsize.trans hten⟩
  rw [powerOfTen?, if_pos (by omega), hp]

/-! ## Products and quotients -/

theorem mul?_of_rounds (hx : 0 < x.size) (hy : 0 < y.size) (hz : z.Canonical)
    (h : z.Rounds (x.size * y.size)) :
    x.mul? y = some ⟨x.negative != y.negative, z.mantissa, z.exponent⟩ := by
  have hnum : 0 < x.mantissa * y.mantissa * Nat.pow 2 (x.exponent + y.exponent).toNat :=
    Nat.mul_pos (Nat.mul_pos (mantissa_pos_of_size_pos hx) (mantissa_pos_of_size_pos hy))
      (Nat.pow_pos Nat.two_pos)
  refine nearest?_of_rounds hnum (Nat.pow_pos Nat.two_pos) hz ?_ _
  convert h using 1
  have hpow := pow_toNat_div (c := 2) two_ne_zero (x.exponent + y.exponent)
  rw [zpow_add₀ two_ne_zero] at hpow
  push_cast [Nat.pow_eq, size]
  rw [mul_div_assoc, hpow]
  ring

theorem div?_of_rounds (hx : 0 < x.size) (hy : 0 < y.size) (hz : z.Canonical)
    (h : z.Rounds (x.size / y.size)) :
    x.div? y = some ⟨x.negative != y.negative, z.mantissa, z.exponent⟩ := by
  have hnum : 0 < x.mantissa * Nat.pow 2 (x.exponent - y.exponent).toNat :=
    Nat.mul_pos (mantissa_pos_of_size_pos hx) (Nat.pow_pos Nat.two_pos)
  have hden : 0 < y.mantissa * Nat.pow 2 (-(x.exponent - y.exponent)).toNat :=
    Nat.mul_pos (mantissa_pos_of_size_pos hy) (Nat.pow_pos Nat.two_pos)
  refine nearest?_of_rounds hnum hden hz ?_ _
  convert h using 1
  have hpow := pow_toNat_div (c := 2) two_ne_zero (x.exponent - y.exponent)
  rw [zpow_sub₀ two_ne_zero] at hpow
  push_cast [Nat.pow_eq, size]
  rw [mul_div_mul_comm, hpow, mul_div_mul_comm]

end Binary64

/-! ## Decimals -/

namespace Decimal

variable {d : Decimal} {x : Binary64}

theorem digits_lt {e : Int} {n : Nat} (h : d.value < 10 ^ e) (he : e ≤ n + d.exponent) :
    d.digits < 10 ^ n := by
  have hscaled : (d.digits : ℚ) * 10 ^ d.exponent < 10 ^ (n + d.exponent) :=
    h.trans_le (zpow_le_zpow_right₀ (by norm_num) he)
  rw [zpow_add₀ (by norm_num), zpow_natCast] at hscaled
  exact_mod_cast lt_of_mul_lt_mul_right hscaled (by positivity)

theorem canonical_of_approximate? {negative : Bool} (h : d.approximate? negative = some x) :
    x.Canonical := by
  obtain ⟨y, hy, hx⟩ := Option.bind_eq_some_iff.mp h
  exact Binary64.canonical_of_scaleByTen? (Binary64.canonical_of_nearest? Nat.one_pos hy) hx

theorem approximate?_of_digits_eq_zero (hd : d.digits = 0) (he : d.exponent = -1)
    (negative : Bool) : d.approximate? negative = some (.zero negative) := by
  unfold approximate?
  rw [hd, he]
  cases negative <;> rfl

/-- Digits and power are numbers without being rounded, so that only the result is rounded. -/
theorem approximate?_of_rounds (hx : x.Canonical) (hdigits : 0 < d.digits)
    (hfits : d.digits < Nat.pow 2 53) (he : d.exponent.natAbs ≤ 22) (h : x.Rounds d.value)
    (negative : Bool) : d.approximate? negative = some ⟨negative, x.mantissa, x.exponent⟩ := by
  have hratio : (d.digits : ℚ) / (1 : Nat) = d.digits * 2 ^ (0 : Int) := by simp
  obtain ⟨y, hy, hsign, hsize⟩ := Binary64.exists_nearest? hdigits Nat.one_pos hfits (by decide)
    (by decide) hratio negative
  obtain ⟨p, hp, hpositive, hpower⟩ := Binary64.exists_powerOfTen? he
  rw [Nat.cast_one, div_one] at hsize
  have hysize : 0 < y.size := by
    rw [hsize]
    exact_mod_cast hdigits
  have hpsize : 0 < p.size := by
    rw [hpower]
    positivity
  have hxor : (y.negative != p.negative) = negative := by rw [hsign, hpositive, Bool.bne_false]
  rw [approximate?, hy, Option.bind_eq_bind, Option.bind_some, Binary64.scaleByTen?_of_small he hp
    (Binary64.mantissa_pos_of_size_pos hysize).ne']
  rw [value] at h
  split
  · rename_i hnonneg
    rw [Binary64.mul?_of_rounds hysize hpsize hx, hxor]
    rwa [hsize, hpower, ← zpow_natCast, Int.natAbs_of_nonneg hnonneg]
  · rename_i hneg
    have habs : (d.exponent.natAbs : Int) = -d.exponent := by omega
    rw [Binary64.div?_of_rounds hysize hpsize hx, hxor]
    rwa [hsize, hpower, ← zpow_natCast, habs, zpow_neg, div_inv_eq_mul]

end Decimal

/-! ## Numbers that are written -/

namespace Binary64

variable {x : Binary64}

/-- The digits of a number as they are written, and the place of the last one. -/
theorem exists_laid (hx : x.Canonical) (hm : 0 < x.mantissa) {ds : List Char} {e : Int}
    (h : significant x.shortest = (ds, e)) : ∃ whole fraction power,
      Laid whole fraction power x.unsignedText ∧
      (decimalOf whole fraction power).value = x.shortest.value ∧
      (power - fraction.length = e + 1 - ds.length ∨
        power - fraction.length = -1 ∧ 0 ≤ e ∧ e < 16) := by
  have hspec := significant_spec (digits_pos_of_rounds hm (rounds_shortest hx hm))
  rw [h] at hspec
  dsimp only at hspec
  have hpos := List.length_pos_iff.mpr hspec.nonempty
  unfold unsignedText
  rw [if_neg hm.ne', h]
  dsimp only
  split
  · rename_i he
    obtain ⟨whole, fraction, hlaid, hvalue, hlength⟩ := hspec.exists_laid_positional
    exact ⟨whole, fraction, 0, hlaid, hvalue, by omega⟩
  · obtain ⟨whole, fraction, hlaid, hvalue, hlength⟩ := hspec.exists_laid_scientific
    exact ⟨whole, fraction, e, hlaid, hvalue, by omega⟩

/-- A number of at most fifteen digits that is neither very large nor very small. -/
structure Short (x : Binary64) : Prop where
  length_le : (significant x.shortest).1.length ≤ 15
  least_le : -8 ≤ (significant x.shortest).2
  le_greatest : (significant x.shortest).2 ≤ 13

/-- The digits of a short number are all kept, and scaling them rounds only once. -/
theorem Short.exists_laid (h : x.Short) (hx : x.Canonical) (hm : 0 < x.mantissa) :
    ∃ whole fraction power, Laid whole fraction power x.unsignedText ∧
      (keptDecimal whole fraction power).approximate? x.negative = some x := by
  obtain ⟨hlength, hleast, hgreatest⟩ := h
  generalize hshape : significant x.shortest = shape at hlength hleast hgreatest
  obtain ⟨ds, e⟩ := shape
  dsimp only at hlength hleast hgreatest
  have hrounds := rounds_shortest hx hm
  have hspec := significant_spec (digits_pos_of_rounds hm hrounds)
  rw [hshape] at hspec
  dsimp only at hspec
  obtain ⟨whole, fraction, power, hlaid, hvalue, hexponent⟩ := Binary64.exists_laid hx hm hshape
  refine ⟨whole, fraction, power, hlaid, ?_⟩
  rw [← hvalue] at hrounds
  have hexponent' : (decimalOf whole fraction power).exponent = power - fraction.length := rfl
  have hvalueLt := hspec.value_lt
  rw [← hvalue] at hvalueLt
  generalize hd : decimalOf whole fraction power = d at hrounds hexponent' hvalueLt
  have hdigits : d.digits < 10 ^ 15 := Decimal.digits_lt hvalueLt (by omega)
  have hkept : keptDecimal whole fraction power = d := by
    rw [keptDecimal_eq_decimalOf, hd]
    rw [hd]
    exact hdigits.trans (by decide)
  rw [hkept]
  exact Decimal.approximate?_of_rounds hx (digits_pos_of_rounds hm hrounds)
    (hdigits.trans (by decide)) (by omega) hrounds x.negative

end Binary64

end Number
end ApiMapping
