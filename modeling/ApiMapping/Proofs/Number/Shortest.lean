import ApiMapping.Number.Notation
import ApiMapping.Proofs.Number.Rounding

/-!
# The shortest decimal reads back

The grid of seventeen digits is finer than the ratios that round to a number, so one of its
points is among them, and every decimal that is chosen is rounded to the number.
-/

namespace ApiMapping
namespace Number

/-- What a decimal stands for. -/
def Decimal.value (d : Decimal) : ℚ := d.digits * 10 ^ d.exponent

/-- What a number stands for without its sign. -/
def Binary64.size (x : Binary64) : ℚ := x.mantissa * 2 ^ x.exponent

/-! ## Exact comparison -/

section CompareScaled

variable {a n : Nat} {i j : Int}

/-- Both sides are scaled by the same positive number. -/
theorem scaled_eq_mul (a n : Nat) (i j : Int) : ∃ c : ℚ, 0 < c ∧
    ((a * Nat.pow 10 i.toNat * Nat.pow 2 (-j).toNat : Nat) : ℚ) = a * 10 ^ i * c ∧
    ((n * Nat.pow 2 j.toNat * Nat.pow 10 (-i).toNat : Nat) : ℚ) = n * 2 ^ j * c := by
  have hten : (10 : ℚ) ^ i.toNat / 10 ^ (-i).toNat = 10 ^ i := pow_toNat_div (by norm_num) i
  have htwo : (2 : ℚ) ^ j.toNat / 2 ^ (-j).toNat = 2 ^ j := pow_toNat_div (by norm_num) j
  refine ⟨10 ^ (-i).toNat * 2 ^ (-j).toNat, by positivity, ?_, ?_⟩
  · rw [← hten]
    push_cast [Nat.pow_eq]
    field_simp
  · rw [← htwo]
    push_cast [Nat.pow_eq]
    field_simp

theorem compareScaled_eq_lt : compareScaled a i n j = .lt ↔ (a * 10 ^ i : ℚ) < n * 2 ^ j := by
  obtain ⟨c, hc, ha, hn⟩ := scaled_eq_mul a n i j
  rw [compareScaled, Nat.compare_eq_lt, ← Nat.cast_lt (α := ℚ), ha, hn, mul_lt_mul_iff_left₀ hc]

theorem compareScaled_eq_gt : compareScaled a i n j = .gt ↔ (n * 2 ^ j : ℚ) < a * 10 ^ i := by
  obtain ⟨c, hc, ha, hn⟩ := scaled_eq_mul a n i j
  rw [compareScaled, Nat.compare_eq_gt, ← Nat.cast_lt (α := ℚ), ha, hn, mul_lt_mul_iff_left₀ hc]

theorem compareScaled_eq_eq : compareScaled a i n j = .eq ↔ (a * 10 ^ i : ℚ) = n * 2 ^ j := by
  obtain ⟨c, hc, ha, hn⟩ := scaled_eq_mul a n i j
  rw [compareScaled, Nat.compare_eq_eq, ← Nat.cast_inj (R := ℚ), ha, hn, mul_left_inj' hc.ne']

end CompareScaled

namespace Binary64

variable {x : Binary64} {d : Decimal}

/-! ## The ratios that round to a number -/

/-- The lower end in quarters of the last place. -/
theorem below_eq (hm : 0 < x.mantissa) :
    ((if x.narrowBelow then 4 * x.mantissa - 1 else 4 * x.mantissa - 2 : Nat) : ℚ) *
      2 ^ (x.exponent - 2) = (x.mantissa - x.gapBelow) * 2 ^ x.exponent := by
  have hquarter : (2 : ℚ) ^ (x.exponent - 2) = 2 ^ x.exponent / 4 := by
    rw [zpow_sub₀ two_ne_zero]
    norm_num
  have hnarrow : x.narrowBelow = true ↔
      x.mantissa = Nat.pow 2 52 ∧ x.exponent ≠ leastExponent := by
    rw [narrowBelow, Bool.and_eq_true, beq_iff_eq, bne_iff_ne]
  rw [hquarter, gapBelow]
  simp only [hnarrow]
  split
  · rw [Nat.cast_sub (by omega)]
    push_cast
    ring
  · rw [Nat.cast_sub (by omega)]
    push_cast
    ring

theorem above_eq : ((4 * x.mantissa + 2 : Nat) : ℚ) * 2 ^ (x.exponent - 2) =
    (x.mantissa + 1 / 2) * 2 ^ x.exponent := by
  have hquarter : (2 : ℚ) ^ (x.exponent - 2) = 2 ^ x.exponent / 4 := by
    rw [zpow_sub₀ two_ne_zero]
    norm_num
  rw [hquarter]
  push_cast
  ring

theorem readsBack_iff (hm : 0 < x.mantissa) : x.readsBack d = true ↔ x.Rounds d.value := by
  simp only [readsBack, Bool.and_eq_true, Bool.or_eq_true, beq_iff_eq, compareScaled_eq_gt,
    compareScaled_eq_lt, compareScaled_eq_eq, below_eq hm, above_eq]
  change ((_ < d.value ∨ _ ∧ d.value = _) ∧ (d.value < _ ∨ _ ∧ d.value = _)) ↔ _
  constructor
  · rintro ⟨hlow, hhigh⟩
    refine ⟨?_, ?_, fun hodd => ⟨?_, ?_⟩⟩
    · exact hlow.elim le_of_lt fun h => h.2.ge
    · exact hhigh.elim le_of_lt fun h => h.2.le
    · exact hlow.resolve_right fun h => by omega
    · exact hhigh.resolve_right fun h => by omega
  · intro h
    rcases Nat.mod_two_eq_zero_or_one x.mantissa with heven | hodd
    · refine ⟨h.low.lt_or_eq.imp_right fun heq => ⟨heven, heq.symm⟩, ?_⟩
      exact h.high.lt_or_eq.imp_right fun heq => ⟨heven, heq⟩
    · exact ⟨.inl (h.odd hodd).1, .inl (h.odd hodd).2⟩

theorem pos_of_rounds {v : ℚ} (hm : 0 < x.mantissa) (h : x.Rounds v) : 0 < v := by
  have hmantissa : (1 : ℚ) ≤ x.mantissa := by exact_mod_cast hm
  have hlow : 0 < x.mantissa - x.gapBelow := by linarith [x.gapBelow_le]
  exact (mul_pos hlow (by positivity)).trans_le h.low

theorem digits_pos_of_rounds (hm : 0 < x.mantissa) (h : x.Rounds d.value) : 0 < d.digits := by
  have hpos := pos_of_rounds hm h
  refine Nat.pos_of_ne_zero fun hzero => ?_
  rw [Decimal.value, hzero, Nat.cast_zero, zero_mul] at hpos
  exact lt_irrefl 0 hpos

/-! ## The grids -/

theorem floorScaled_spec (x : Binary64) (e : Int) :
    (x.floorScaled e : ℚ) * 10 ^ e ≤ x.size ∧ x.size < (x.floorScaled e + 1) * 10 ^ e := by
  have hden : 0 < Nat.pow 2 (-x.exponent).toNat * Nat.pow 10 e.toNat :=
    Nat.mul_pos (Nat.pow_pos (by decide)) (Nat.pow_pos (by decide))
  have hratio : x.size / 10 ^ e =
      ((x.mantissa * Nat.pow 2 x.exponent.toNat * Nat.pow 10 (-e).toNat : Nat) : ℚ) /
        (Nat.pow 2 (-x.exponent).toNat * Nat.pow 10 e.toNat : Nat) := by
    rw [size, ← pow_toNat_div two_ne_zero x.exponent, ← pow_toNat_div (by norm_num) e]
    push_cast [Nat.pow_eq]
    field_simp
  rw [← le_div_iff₀ (by positivity), ← div_lt_iff₀ (by positivity), hratio]
  have hden' : (0 : ℚ) < (Nat.pow 2 (-x.exponent).toNat * Nat.pow 10 e.toNat : Nat) := by
    exact_mod_cast hden
  rw [le_div_iff₀ hden', div_lt_iff₀ hden']
  constructor
  · exact_mod_cast Nat.div_mul_le_self _ _
  · exact_mod_cast Nat.lt_mul_of_div_lt (Nat.lt_succ_self _) hden

theorem rounds_of_inside {v : ℚ} (hlow : (x.mantissa - x.gapBelow) * 2 ^ x.exponent < v)
    (hhigh : v < (x.mantissa + 1 / 2) * 2 ^ x.exponent) : x.Rounds v :=
  ⟨hlow.le, hhigh.le, fun _ => ⟨hlow, hhigh⟩⟩

/-- Of the two points beside the number one reads back, if the grid is finer than the ends. -/
theorem readsBack_beside (hm : 0 < x.mantissa) {e : Int}
    (hfine : (10 : ℚ) ^ e < (x.gapBelow + 1 / 2) * 2 ^ x.exponent) :
    x.readsBack ⟨x.floorScaled e, e⟩ = true ∨ x.readsBack ⟨x.floorScaled e + 1, e⟩ = true := by
  obtain ⟨hlow, hhigh⟩ := floorScaled_spec x e
  have hpow : (0 : ℚ) < 2 ^ x.exponent := by positivity
  have hbelow : (x.mantissa - x.gapBelow) * 2 ^ x.exponent < x.size :=
    mul_lt_mul_of_pos_right (by linarith [x.gapBelow_pos]) hpow
  have habove : x.size < (x.mantissa + 1 / 2) * 2 ^ x.exponent :=
    mul_lt_mul_of_pos_right (by linarith) hpow
  rw [readsBack_iff hm, readsBack_iff hm]
  by_cases hfloor : (x.mantissa - x.gapBelow) * 2 ^ x.exponent < x.floorScaled e * 10 ^ e
  · exact .inl (rounds_of_inside hfloor (hlow.trans_lt habove))
  · have hvalue : (⟨x.floorScaled e + 1, e⟩ : Decimal).value = (x.floorScaled e + 1) * 10 ^ e := by
      simp [Decimal.value]
    right
    rw [hvalue]
    refine rounds_of_inside (hbelow.trans hhigh) ?_
    linarith

theorem onGrid?_ne_none (hm : 0 < x.mantissa) {e : Int}
    (hfine : (10 : ℚ) ^ e < (x.gapBelow + 1 / 2) * 2 ^ x.exponent) : x.onGrid? e ≠ none := by
  intro hnone
  unfold onGrid? at hnone
  dsimp only at hnone
  split at hnone <;> rename_i hlower hhigher
  · have hsome := readsBack_beside hm hfine
    rw [hlower, hhigher] at hsome
    exact hsome.elim Bool.false_ne_true Bool.false_ne_true
  · cases hnone
  · cases hnone
  · split at hnone <;> cases hnone

theorem readsBack_of_onGrid? {e : Int} (h : x.onGrid? e = some d) : x.readsBack d = true := by
  unfold onGrid? at h
  dsimp only at h
  split at h
  · cases h
  · cases h
    assumption
  · cases h
    assumption
  · split at h
    · cases h
      assumption
    · cases h
      assumption
    · cases h
      split <;> assumption

/-! ## The first digit -/

theorem two_zpow_le_size (hm : 0 < x.mantissa) :
    (2 : ℚ) ^ ((x.mantissa.log2 : Int) + x.exponent) ≤ x.size := by
  rw [zpow_add₀ two_ne_zero, size]
  exact mul_le_mul_of_nonneg_right (two_pow_log2_le hm) (by positivity)

/-- Powers are compared by comparing higher powers of them. -/
theorem ten_zpow_le_two_zpow_of_power {p q k m b n : Int} (hpower : (10 : ℚ) ^ q ≤ 2 ^ p)
    (hk : 0 ≤ k) (hn : 0 < n) (hten : m * n ≤ q * k) (htwo : p * k = b * n) :
    (10 : ℚ) ^ m ≤ 2 ^ b := by
  rw [← zpow_le_zpow_iff_left₀ (by positivity) (by positivity) hn, ← zpow_mul, ← zpow_mul]
  calc (10 : ℚ) ^ (m * n) ≤ 10 ^ (q * k) := zpow_le_zpow_right₀ (by norm_num) hten
    _ = (10 ^ q) ^ k := zpow_mul 10 q k
    _ ≤ (2 ^ p) ^ k := zpow_le_zpow_left₀ hk (by positivity) hpower
    _ = 2 ^ (b * n) := by rw [← zpow_mul, htwo]

/-- Over the whole range of exponents the estimate of the number of digits is too large by one
at most. -/
theorem ten_zpow_le_two_zpow {bits start : Int} (hlow : -1074 ≤ bits) (hhigh : bits ≤ 1023)
    (hstart : start * 100000 ≤ bits * 30103) : (10 : ℚ) ^ (start - 1) ≤ 2 ^ bits := by
  rcases Int.le_total 0 bits with hbits | hbits
  · have hpower : (10 : ℚ) ^ (59 : Int) ≤ 2 ^ (196 : Int) := by norm_num
    exact ten_zpow_le_two_zpow_of_power hpower hbits (n := 196) (by decide) (by omega) (by omega)
  · have hpower : (10 : ℚ) ^ (-28 : Int) ≤ 2 ^ (-93 : Int) := by norm_num
    exact ten_zpow_le_two_zpow_of_power hpower (Int.neg_nonneg_of_nonpos hbits) (n := 93)
      (by decide) (by omega) (by omega)

theorem ten_zpow_le_size (hx : x.Canonical) (hm : 0 < x.mantissa) :
    (10 : ℚ) ^ (x.magnitude - 1) ≤ x.size := by
  have hexceeds : ∀ k : Int, ¬ (compareScaled 1 k x.mantissa x.exponent == .gt) = true →
      (10 : ℚ) ^ k ≤ x.size := by
    intro k hk
    rw [beq_iff_eq, compareScaled_eq_gt, not_lt, Nat.cast_one, one_mul] at hk
    exact hk
  have hlog : x.mantissa.log2 < 53 := (Nat.log2_lt hm.ne').mpr hx.fits
  have hleast := hx.least
  have hgreatest := hx.greatest
  rw [leastExponent] at hleast
  rw [greatestExponent] at hgreatest
  unfold magnitude
  dsimp only
  split
  · refine le_trans (ten_zpow_le_two_zpow (by omega) (by omega) ?_) (two_zpow_le_size hm)
    rw [Int.fdiv_eq_ediv_of_nonneg _ (by decide)]
    exact Int.ediv_mul_le _ (by decide)
  · rename_i hstart
    split
    · rw [add_sub_cancel_right]
      exact hexceeds _ hstart
    · rename_i hnext
      rw [show ∀ start : Int, start + 2 - 1 = start + 1 by omega]
      exact hexceeds _ hnext

/-! ## The shortest decimal -/

/-- The grid of seventeen digits is fine enough. -/
theorem ten_zpow_lt_of_canonical (hx : x.Canonical) (hm : 0 < x.mantissa) :
    (10 : ℚ) ^ (x.magnitude - 17) < (x.gapBelow + 1 / 2) * 2 ^ x.exponent := by
  have hmantissa : (x.mantissa : ℚ) < (x.gapBelow + 1 / 2) * 10 ^ 16 := by
    unfold gapBelow
    split
    · rename_i hnarrow
      rw [hnarrow.1]
      norm_num
    · linarith [hx.mantissa_le]
  have hfirst := ten_zpow_le_size hx hm
  rw [show x.magnitude - 1 = x.magnitude - 17 + 16 by omega, zpow_add₀ (by norm_num), size,
    ← le_div_iff₀ (by positivity)] at hfirst
  refine hfirst.trans_lt ?_
  rw [div_lt_iff₀ (by positivity), mul_right_comm]
  exact mul_lt_mul_of_pos_right (by exact_mod_cast hmantissa) (by positivity)

/-- The decimal that is chosen lies among the ratios that round to the number. -/
theorem rounds_shortest (hx : x.Canonical) (hm : 0 < x.mantissa) : x.Rounds x.shortest.value := by
  unfold shortest
  dsimp only
  split
  · rename_i d hd
    obtain ⟨n, -, hn⟩ := List.exists_of_findSome?_eq_some hd
    exact (readsBack_iff hm).mp (readsBack_of_onGrid? hn)
  · rename_i hnone
    have hgrid := List.findSome?_eq_none_iff.mp hnone 16 (by simp)
    exact absurd hgrid (onGrid?_ne_none hm (ten_zpow_lt_of_canonical hx hm))

end Binary64
end Number
end ApiMapping
