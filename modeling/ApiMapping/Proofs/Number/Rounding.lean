import ApiMapping.Number.Binary64
import Mathlib.Algebra.Order.Field.Power
import Mathlib.Algebra.Order.Ring.Rat
import Mathlib.Data.Nat.Log
import Mathlib.Tactic.FieldSimp
import Mathlib.Tactic.GCongr
import Mathlib.Tactic.Linarith
import Mathlib.Tactic.NormNum
import Mathlib.Tactic.Positivity
import Mathlib.Tactic.Ring

/-!
# Rounding to the nearest number

A number has one form, and stands for the ratios that are nearer to it than to its neighbours.
Every such ratio is rounded to it, a ratio half way between two numbers to the even one.
-/

namespace ApiMapping
namespace Number

/-! ## Quotients -/

section RoundDiv

variable {num den m : Nat}

/-- The integer at most half of the denominator away, at a tie the even one. -/
theorem roundDiv_eq (hlow : 2 * (m * den) ≤ 2 * num + den) (hhigh : 2 * num ≤ 2 * (m * den) + den)
    (htieLow : 2 * (m * den) = 2 * num + den → m % 2 = 0)
    (htieHigh : 2 * num = 2 * (m * den) + den → m % 2 = 0) (hden : 0 < den) :
    roundDiv num den = m := by
  have hnum : num / den * den + num % den = num := Nat.div_add_mod' num den
  have hmod : num % den < den := Nat.mod_lt num hden
  unfold roundDiv
  dsimp only
  generalize num / den = q at hnum ⊢
  generalize num % den = r at hnum hmod ⊢
  have hle : m ≤ q + 1 := by
    by_contra! hgt
    have hmul := Nat.mul_le_mul_right den (Nat.succ_le_of_lt hgt)
    rw [Nat.succ_mul, Nat.succ_mul] at hmul
    omega
  have hge : q ≤ m := by
    by_contra! hlt
    have hmul := Nat.mul_le_mul_right den (Nat.succ_le_of_lt hlt)
    rw [Nat.succ_mul] at hmul
    omega
  rcases (by omega : m = q ∨ m = q + 1) with rfl | rfl
  · split <;> rename_i hcompare
    · rfl
    · rw [Nat.compare_eq_gt] at hcompare
      omega
    · rw [Nat.compare_eq_eq] at hcompare
      rw [if_pos (htieHigh (by omega))]
  · rw [Nat.add_mul, Nat.one_mul] at hlow hhigh htieLow
    split <;> rename_i hcompare
    · rw [Nat.compare_eq_lt] at hcompare
      omega
    · rfl
    · rw [Nat.compare_eq_eq] at hcompare
      rw [if_neg]
      have := htieLow (by omega)
      omega

theorem roundDiv_le (hden : 0 < den) (h : num ≤ m * den) : roundDiv num den ≤ m := by
  rcases Nat.lt_or_ge (num / den) m with hlt | hge
  · unfold roundDiv
    dsimp only
    split <;> try split
    all_goals omega
  · -- Nothing is left to be rounded.
    have hnum : num = m * den := Nat.le_antisymm h ((Nat.le_div_iff_mul_le hden).mp hge)
    refine Nat.le_of_eq (roundDiv_eq ?_ ?_ ?_ ?_ hden) <;> omega

theorem le_roundDiv (hden : 0 < den) (h : m * den ≤ num) : m ≤ roundDiv num den := by
  have hquot : m ≤ num / den := (Nat.le_div_iff_mul_le hden).mpr h
  unfold roundDiv
  dsimp only
  split
  · exact hquot
  · omega
  · split <;> omega

/-- The same of ratios: an odd integer is only given if the ratio is nearer to it than to the
even ones beside it. -/
theorem roundDiv_eq_of_near (hden : 0 < den) (hlow : (m : ℚ) - 1 / 2 ≤ num / den)
    (hhigh : (num : ℚ) / den ≤ m + 1 / 2)
    (hodd : m % 2 = 1 → (m : ℚ) - 1 / 2 < num / den ∧ (num : ℚ) / den < m + 1 / 2) :
    roundDiv num den = m := by
  have hpos : (0 : ℚ) < den := by exact_mod_cast hden
  rw [le_div_iff₀ hpos] at hlow
  rw [div_le_iff₀ hpos] at hhigh
  rw [lt_div_iff₀ hpos, div_lt_iff₀ hpos] at hodd
  refine roundDiv_eq ?_ ?_ (fun htie => ?_) (fun htie => ?_) hden
  · exact_mod_cast (by linarith : (2 : ℚ) * (m * den) ≤ 2 * num + den)
  · exact_mod_cast (by linarith : (2 : ℚ) * num ≤ 2 * (m * den) + den)
  · by_contra hne
    have hcast : (2 : ℚ) * (m * den) = 2 * num + den := by exact_mod_cast htie
    linarith [(hodd (by omega)).1]
  · by_contra hne
    have hcast : (2 : ℚ) * num = 2 * (m * den) + den := by exact_mod_cast htie
    linarith [(hodd (by omega)).2]

end RoundDiv

/-! ## Scales -/

/-- Powers are kept whole by moving those of negative exponents to the other side. -/
theorem pow_toNat_div {c : ℚ} (hc : c ≠ 0) (e : Int) : c ^ e.toNat / c ^ (-e).toNat = c ^ e := by
  rw [← zpow_natCast, ← zpow_natCast, ← zpow_sub₀ hc, Int.toNat_sub_toNat_neg]

theorem scaled_div (num den : Nat) (e : Int) :
    ((num * Nat.pow 2 (-e).toNat : Nat) : ℚ) / (den * Nat.pow 2 e.toNat : Nat) =
      num / den / 2 ^ e := by
  have hpow : (2 : ℚ) ^ e.toNat / 2 ^ (-e).toNat = 2 ^ e := pow_toNat_div two_ne_zero e
  rw [← hpow]
  push_cast [Nat.pow_eq]
  field_simp

namespace Binary64

theorem two_pow_log2_le {n : Nat} (h : 0 < n) : (2 : ℚ) ^ (n.log2 : Int) ≤ n := by
  rw [zpow_natCast]
  exact_mod_cast Nat.log2_self_le (Nat.pos_iff_ne_zero.mp h)

theorem lt_two_pow_log2_succ (n : Nat) : (n : ℚ) < 2 ^ ((n.log2 : Int) + 1) := by
  have hlt : n < 2 ^ (n.log2 + 1) := Nat.lt_log2_self
  exact_mod_cast hlt

/-- The lengths of two numbers give their ratio up to a factor of four. -/
theorem ratio_estimate {num den : Nat} (hnum : 0 < num) (hden : 0 < den) {e : Int}
    (he : (num.log2 : Int) - den.log2 - 52 = e) :
    (2 : ℚ) ^ (e + 51) ≤ num / den ∧ (num : ℚ) / den < 2 ^ (e + 53) := by
  have hpos : (0 : ℚ) < den := by exact_mod_cast hden
  constructor
  · rw [le_div_iff₀ hpos]
    calc (2 : ℚ) ^ (e + 51) * den ≤ 2 ^ (e + 51) * 2 ^ ((den.log2 : Int) + 1) := by
          gcongr
          exact (lt_two_pow_log2_succ den).le
      _ = 2 ^ (num.log2 : Int) := by
          rw [← zpow_add₀ two_ne_zero]
          congr 1
          omega
      _ ≤ num := two_pow_log2_le hnum
  · rw [div_lt_iff₀ hpos]
    calc (num : ℚ) < 2 ^ ((num.log2 : Int) + 1) := lt_two_pow_log2_succ num
      _ = 2 ^ (e + 53) * 2 ^ (den.log2 : Int) := by
          rw [← zpow_add₀ two_ne_zero]
          congr 1
          omega
      _ ≤ 2 ^ (e + 53) * den := by
          gcongr
          exact two_pow_log2_le hden

theorem scaleOf_spec {num den : Nat} (hnum : 0 < num) (hden : 0 < den) :
    (2 : ℚ) ^ (scaleOf num den + 52) ≤ num / den ∧
      (num : ℚ) / den < 2 ^ (scaleOf num den + 53) := by
  unfold scaleOf
  generalize he : (num.log2 : Int) - den.log2 - 52 = e
  obtain ⟨hlow, hhigh⟩ := ratio_estimate hnum hden he
  have hscaled := scaled_div num den e
  have hdenScaled : 0 < den * Nat.pow 2 e.toNat := Nat.mul_pos hden (Nat.pow_pos Nat.two_pos)
  have hpow : (0 : ℚ) < 2 ^ e := by positivity
  dsimp only
  split <;> rename_i hquot
  · -- The quotient is too small for the estimate, so the scale is one less.
    rw [Nat.div_lt_iff_lt_mul hdenScaled] at hquot
    have hsmall : (num : ℚ) / den < 2 ^ (e + 52) := by
      rw [zpow_add₀ two_ne_zero, ← div_lt_iff₀' hpow, ← hscaled,
        div_lt_iff₀ (by exact_mod_cast hdenScaled)]
      exact_mod_cast hquot
    exact ⟨by rwa [show e - 1 + 52 = e + 51 by omega], by rwa [show e - 1 + 53 = e + 52 by omega]⟩
  · rw [Nat.not_lt, Nat.le_div_iff_mul_le hdenScaled] at hquot
    refine ⟨?_, hhigh⟩
    rw [zpow_add₀ two_ne_zero, ← le_div_iff₀' hpow, ← hscaled,
      le_div_iff₀ (by exact_mod_cast hdenScaled)]
    exact_mod_cast hquot

/-! ## Numbers -/

/-- The one form of a number: all 53 bits of the mantissa are used where the exponent can be
made smaller. -/
structure Canonical (x : Binary64) : Prop where
  fits : x.mantissa < Nat.pow 2 53
  least : leastExponent ≤ x.exponent
  greatest : x.exponent ≤ greatestExponent
  full : Nat.pow 2 52 ≤ x.mantissa ∨ x.exponent = leastExponent

theorem canonical_zero (negative : Bool) : (zero negative).Canonical :=
  ⟨Nat.pow_pos Nat.two_pos, Int.le_refl _, by decide +revert, .inr rfl⟩

theorem Canonical.eq_zero {x : Binary64} (hx : x.Canonical) (h : x.mantissa = 0) :
    x = zero x.negative := by
  obtain ⟨negative, mantissa, exponent⟩ := x
  obtain rfl : mantissa = 0 := h
  obtain rfl : exponent = _ := hx.full.resolve_left (by decide : ¬ Nat.pow 2 52 ≤ 0)
  rfl

section Nearest

variable {num den : Nat} {e : Int}

/-- The mantissa at an exponent that is large enough. -/
theorem roundDiv_scaled_le (hden : 0 < den) (h : (num : ℚ) / den ≤ 2 ^ (e + 53)) :
    roundDiv (num * Nat.pow 2 (-e).toNat) (den * Nat.pow 2 e.toNat) ≤ Nat.pow 2 53 := by
  have hdenScaled : 0 < den * Nat.pow 2 e.toNat := Nat.mul_pos hden (Nat.pow_pos Nat.two_pos)
  refine roundDiv_le hdenScaled ?_
  rw [zpow_add₀ two_ne_zero, ← div_le_iff₀' (by positivity), ← scaled_div,
    div_le_iff₀ (by exact_mod_cast hdenScaled)] at h
  exact_mod_cast h

/-- The mantissa at an exponent that is small enough. -/
theorem le_roundDiv_scaled (hden : 0 < den) (h : (2 : ℚ) ^ (e + 52) ≤ num / den) :
    Nat.pow 2 52 ≤ roundDiv (num * Nat.pow 2 (-e).toNat) (den * Nat.pow 2 e.toNat) := by
  have hdenScaled : 0 < den * Nat.pow 2 e.toNat := Nat.mul_pos hden (Nat.pow_pos Nat.two_pos)
  refine le_roundDiv hdenScaled ?_
  rw [zpow_add₀ two_ne_zero, ← le_div_iff₀' (by positivity), ← scaled_div,
    le_div_iff₀ (by exact_mod_cast hdenScaled)] at h
  exact_mod_cast h

/-- Whatever is rounded, the number is in its form. -/
theorem canonical_of_nearest? {negative : Bool} {x : Binary64} (hden : 0 < den)
    (h : nearest? negative num den = some x) : x.Canonical := by
  unfold nearest? at h
  split at h
  · cases h
    exact canonical_zero negative
  · rename_i hnum
    obtain ⟨hlow, hhigh⟩ := scaleOf_spec (Nat.pos_of_ne_zero hnum) hden
    dsimp only at h
    generalize he : max (scaleOf num den) leastExponent = e at h
    have hscale : scaleOf num den ≤ e := he ▸ le_max_left _ _
    have hleast : leastExponent ≤ e := he ▸ le_max_right _ _
    have hle := roundDiv_scaled_le hden
      (hhigh.le.trans (zpow_le_zpow_right₀ one_le_two (Int.add_le_add_right hscale 53)))
    have hge : e = leastExponent ∨
        Nat.pow 2 52 ≤ roundDiv (num * Nat.pow 2 (-e).toNat) (den * Nat.pow 2 e.toNat) := by
      rcases max_choice (scaleOf num den) leastExponent with hmax | hmax
      · exact .inr (le_roundDiv_scaled hden (by rwa [← he, hmax]))
      · exact .inl (he.symm.trans hmax)
    generalize roundDiv (num * Nat.pow 2 (-e).toNat) (den * Nat.pow 2 e.toNat) = m at h hle hge
    split at h <;> split at h
    · rename_i hgreatest
      cases h
      exact ⟨(by decide : Nat.pow 2 52 < Nat.pow 2 53), Int.le_add_one hleast, hgreatest, .inl le_rfl⟩
    · cases h
    · rename_i hm hgreatest
      cases h
      exact ⟨lt_of_le_of_ne hle hm, hleast, hgreatest, hge.symm⟩
    · cases h

/-- The distance down to the reals that round to the number below. Below a power of two the
neighbour is twice as close. -/
def gapBelow (x : Binary64) : ℚ :=
  if x.mantissa = Nat.pow 2 52 ∧ x.exponent ≠ leastExponent then 1 / 4 else 1 / 2

/-- The ratios that round to a number without its sign. An end belongs to an even mantissa. -/
structure Rounds (x : Binary64) (v : ℚ) : Prop where
  low : (x.mantissa - x.gapBelow) * 2 ^ x.exponent ≤ v
  high : v ≤ (x.mantissa + 1 / 2) * 2 ^ x.exponent
  odd : x.mantissa % 2 = 1 →
    (x.mantissa - x.gapBelow) * 2 ^ x.exponent < v ∧ v < (x.mantissa + 1 / 2) * 2 ^ x.exponent

theorem gapBelow_pos (x : Binary64) : 0 < x.gapBelow := by
  unfold gapBelow
  split <;> norm_num

theorem gapBelow_le (x : Binary64) : x.gapBelow ≤ 1 / 2 := by
  unfold gapBelow
  split <;> norm_num

theorem Canonical.mantissa_le {x : Binary64} (hx : x.Canonical) : (x.mantissa : ℚ) ≤ 2 ^ 53 - 1 := by
  have hle : x.mantissa + 1 ≤ 2 ^ 53 := hx.fits
  have hcast : (x.mantissa : ℚ) + 1 ≤ 2 ^ 53 := by exact_mod_cast hle
  linarith

theorem two_zpow_add_nat (e : Int) (k : Nat) : (2 : ℚ) ^ (e + k) = 2 ^ k * 2 ^ e := by
  rw [zpow_add₀ two_ne_zero, zpow_natCast, mul_comm]

theorem Rounds.lt_top {x : Binary64} {v : ℚ} (h : x.Rounds v) (hx : x.Canonical) :
    v < 2 ^ (x.exponent + 53) := by
  calc v ≤ (x.mantissa + 1 / 2) * 2 ^ x.exponent := h.high
    _ < 2 ^ 53 * 2 ^ x.exponent := by
      gcongr
      linarith [hx.mantissa_le]
    _ = 2 ^ (x.exponent + 53) := (two_zpow_add_nat x.exponent 53).symm

theorem Rounds.half_bottom_le {x : Binary64} {v : ℚ} (h : x.Rounds v)
    (hfull : Nat.pow 2 52 ≤ x.mantissa) : (2 : ℚ) ^ (x.exponent + 51) ≤ v := by
  have hcast : (2 : ℚ) ^ 52 ≤ x.mantissa := by exact_mod_cast hfull
  calc (2 : ℚ) ^ (x.exponent + 51) = 2 ^ 51 * 2 ^ x.exponent := two_zpow_add_nat x.exponent 51
    _ ≤ (x.mantissa - x.gapBelow) * 2 ^ x.exponent := by
      gcongr
      linarith [x.gapBelow_le]
    _ ≤ v := h.low

/-- Below the range of the mantissas only the least of them has ratios. -/
theorem Rounds.mantissa_eq {x : Binary64} {v : ℚ} (h : x.Rounds v)
    (hfull : Nat.pow 2 52 ≤ x.mantissa) (hv : v < 2 ^ (x.exponent + 52)) :
    x.mantissa = Nat.pow 2 52 := by
  have hscaled : (x.mantissa - x.gapBelow) * 2 ^ x.exponent < 2 ^ 52 * 2 ^ x.exponent := by
    calc (x.mantissa - x.gapBelow) * 2 ^ x.exponent ≤ v := h.low
      _ < 2 ^ (x.exponent + 52) := hv
      _ = 2 ^ 52 * 2 ^ x.exponent := two_zpow_add_nat x.exponent 52
  have hcast : (x.mantissa : ℚ) < 2 ^ 52 + 1 := by
    linarith [lt_of_mul_lt_mul_right hscaled (by positivity), x.gapBelow_le]
  have hnat : x.mantissa < 2 ^ 52 + 1 := by exact_mod_cast hcast
  exact le_antisymm (Nat.le_of_lt_succ hnat) hfull

/-- A ratio that rounds to a number is scaled by the exponent of the number, unless the number
is a power of two and the ratio below it. -/
theorem scale_of_rounds {x : Binary64} (hnum : 0 < num) (hden : 0 < den) (hx : x.Canonical)
    (hrounds : x.Rounds (num / den)) :
    max (scaleOf num den) leastExponent = x.exponent ∨
      (x.mantissa = Nat.pow 2 52 ∧ x.exponent ≠ leastExponent ∧
        (num : ℚ) / den < 2 ^ (x.exponent + 52) ∧
        max (scaleOf num den) leastExponent = x.exponent - 1) := by
  obtain ⟨hlow, hhigh⟩ := scaleOf_spec hnum hden
  have hbelow : scaleOf num den ≤ x.exponent := by
    have hlt := hlow.trans_lt (hrounds.lt_top hx)
    rw [zpow_lt_zpow_iff_right₀ one_lt_two] at hlt
    omega
  rcases hx.full with hfull | hleast
  · rcases Int.lt_or_eq_of_le hbelow with hlt | heq
    · by_cases hleast : x.exponent = leastExponent
      · exact .inl (by omega)
      · have hratio : (num : ℚ) / den < 2 ^ (x.exponent + 52) :=
          hhigh.trans_le (zpow_le_zpow_right₀ one_le_two (by omega))
        have habove := (hrounds.half_bottom_le hfull).trans_lt hhigh
        rw [zpow_lt_zpow_iff_right₀ one_lt_two] at habove
        have := hx.least
        exact .inr ⟨hrounds.mantissa_eq hfull hratio, hleast, hratio, by omega⟩
    · exact .inl (by rw [heq]; exact max_eq_left hx.least)
  · exact .inl (by omega)

/-- At the scale of the number. -/
theorem roundDiv_of_rounds {x : Binary64} (hden : 0 < den) (hrounds : x.Rounds (num / den)) :
    roundDiv (num * Nat.pow 2 (-x.exponent).toNat) (den * Nat.pow 2 x.exponent.toNat) =
      x.mantissa := by
  have hdenScaled : 0 < den * Nat.pow 2 x.exponent.toNat :=
    Nat.mul_pos hden (Nat.pow_pos Nat.two_pos)
  have hpow : (0 : ℚ) < 2 ^ x.exponent := by positivity
  refine roundDiv_eq_of_near hdenScaled ?_ ?_ fun hodd => ?_ <;> rw [scaled_div]
  · rw [le_div_iff₀ hpow]
    refine le_trans ?_ hrounds.low
    gcongr
    exact x.gapBelow_le
  · rw [div_le_iff₀ hpow]
    exact hrounds.high
  · obtain ⟨hlow, hhigh⟩ := hrounds.odd hodd
    rw [lt_div_iff₀ hpow, div_lt_iff₀ hpow]
    refine ⟨lt_of_le_of_lt ?_ hlow, hhigh⟩
    gcongr
    exact x.gapBelow_le

/-- At the scale below it, a power of two is what the ratio is rounded up to. -/
theorem roundDiv_of_rounds_below {x : Binary64} (hden : 0 < den) (hrounds : x.Rounds (num / den))
    (hmantissa : x.mantissa = Nat.pow 2 52) (hleast : x.exponent ≠ leastExponent)
    (hratio : (num : ℚ) / den < 2 ^ (x.exponent + 52)) :
    roundDiv (num * Nat.pow 2 (-(x.exponent - 1)).toNat)
      (den * Nat.pow 2 (x.exponent - 1).toNat) = Nat.pow 2 53 := by
  have hdenScaled : 0 < den * Nat.pow 2 (x.exponent - 1).toNat :=
    Nat.mul_pos hden (Nat.pow_pos Nat.two_pos)
  have hgap : x.gapBelow = 1 / 4 := if_pos ⟨hmantissa, hleast⟩
  have hcast : (x.mantissa : ℚ) = 2 ^ 52 := by
    rw [hmantissa]
    norm_num
  have hhalf : (2 : ℚ) ^ (x.exponent - 1) = 2 ^ x.exponent / 2 := by
    rw [zpow_sub_one₀ two_ne_zero, div_eq_mul_inv]
  have hlow := hrounds.low
  rw [hgap, hcast] at hlow
  rw [zpow_add₀ two_ne_zero] at hratio
  refine roundDiv_eq_of_near hdenScaled ?_ ?_ (fun hodd => absurd hodd (by decide)) <;>
    rw [scaled_div, hhalf]
  · rw [le_div_iff₀ (by positivity)]
    norm_num at hlow ⊢
    linarith
  · rw [div_le_iff₀ (by positivity)]
    norm_num at hratio ⊢
    linarith

/-- The ratios that round to a number are rounded to it. -/
theorem nearest?_of_rounds {x : Binary64} (hnum : 0 < num) (hden : 0 < den) (hx : x.Canonical)
    (hrounds : x.Rounds (num / den)) (negative : Bool) :
    nearest? negative num den = some ⟨negative, x.mantissa, x.exponent⟩ := by
  unfold nearest?
  rw [if_neg (Nat.pos_iff_ne_zero.mp hnum)]
  dsimp only
  rcases scale_of_rounds hnum hden hx hrounds with he | ⟨hmantissa, hleast, hratio, he⟩
  · rw [he, roundDiv_of_rounds hden hrounds, if_neg (Nat.ne_of_lt hx.fits), if_pos hx.greatest]
  · rw [he, roundDiv_of_rounds_below hden hrounds hmantissa hleast hratio, if_pos rfl,
      sub_add_cancel, if_pos hx.greatest, hmantissa]

end Nearest

end Binary64

end Number
end ApiMapping
