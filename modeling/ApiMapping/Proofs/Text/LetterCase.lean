import ApiMapping.Text.LetterCase
import Mathlib

/-!
# Two ways to ignore case

A text in upper case holds no small ASCII letter. Between such texts there is nothing left
to ignore, so that they are equal up to the case of ASCII letters only if they are equal.
-/

namespace ApiMapping
namespace Text

/-! ## Upper case has no small letters -/

theorem isLower_iff {c : Char} : c.isLower = true ↔ 0x61 ≤ c.toNat ∧ c.toNat ≤ 0x7A := by
  simp [Char.isLower, UInt32.le_iff_toNat_le, ← Char.toNat_val]

theorem isLower_ofNat_eq_false {n : Nat} (h : n < 0x61 ∨ 0x7A < n) :
    (Char.ofNat n).isLower = false := by
  rw [Bool.eq_false_iff, Ne, isLower_iff]
  by_cases hvalid : n.isValidChar
  · have hchar : (Char.ofNat n).toNat = n := by rw [show Char.ofNat n = _ from dif_pos hvalid]; rfl
    omega
  · have hchar : (Char.ofNat n).toNat = 0 := by rw [show Char.ofNat n = _ from dif_neg hvalid]; rfl
    omega

theorem isLower_of_expansion {n : Nat} {ns : List Nat} (h : upperExpansions.lookup n = some ns)
    {k : Nat} (hk : k ∈ ns) : (Char.ofNat k).isLower = false := by
  have htable : ∀ entry ∈ upperExpansions, ∀ k ∈ entry.2, k < 0x61 ∨ 0x7A < k := by decide
  obtain ⟨before, after, hentry, -⟩ := List.lookup_eq_some_iff.mp h
  apply isLower_ofNat_eq_false
  exact htable (n, ns) (by simp [hentry]) k hk

/-- No run of letters moves one of its letters among the small ASCII letters. -/
theorem isLower_of_shifted {n : Nat} (h : 0x80 ≤ n) :
    (Char.ofNat (shifted upperRuns n)).isLower = false := by
  have htable : ∀ r ∈ upperRuns, (r.last : Int) + r.shift < 0x61 ∨ 0x7A < r.first + r.shift := by
    decide +kernel
  apply isLower_ofNat_eq_false
  unfold shifted
  split
  · rename_i r hr
    have hholds := List.find?_some hr
    have hrange := htable r (List.mem_of_find?_eq_some hr)
    simp only [LetterRun.holds, Bool.and_eq_true, decide_eq_true_eq] at hholds
    omega
  · omega

theorem isLower_of_mem_upperLetter {c d : Char} (h : d ∈ upperLetter c) : d.isLower = false := by
  unfold upperLetter at h
  split at h
  · rw [List.mem_singleton] at h
    rw [h, Char.isLower_toUpper_eq_false]
  · rename_i hc
    unfold otherCase at h
    split at h
    · rename_i ns hns
      obtain ⟨k, hk, rfl⟩ := List.mem_map.mp h
      exact isLower_of_expansion hns hk
    · rw [List.mem_singleton] at h
      rw [h]
      exact isLower_of_shifted (Nat.le_of_not_lt hc)

theorem isLower_of_mem_upper {s : String} {d : Char} (h : d ∈ (upper s).toList) :
    d.isLower = false := by
  rw [upper, String.toList_ofList] at h
  obtain ⟨c, -, hd⟩ := List.mem_flatMap.mp h
  exact isLower_of_mem_upperLetter hd

/-! ## Equality up to the case of ASCII letters -/

theorem eqIgnoringAsciiCase_iff {s t : String} :
    eqIgnoringAsciiCase s t = true ↔ s.toList.map Char.toLower = t.toList.map Char.toLower := by
  simp [eqIgnoringAsciiCase]

theorem toUpper_toLower_eq_self {c : Char} (h : c.isLower = false) : c.toLower.toUpper = c := by
  rw [Char.toUpper_toLower_eq_toUpper]
  exact Char.toUpper_eq_of_not_isLower (by simp [h])

/-- Upper case can be restored from lower case. -/
theorem map_toUpper_map_toLower {cs : List Char} (h : ∀ c ∈ cs, c.isLower = false) :
    (cs.map Char.toLower).map Char.toUpper = cs := by
  rw [List.map_map]
  have hchar : ∀ c ∈ cs, (Char.toUpper ∘ Char.toLower) c = id c := by
    intro c hc
    exact toUpper_toLower_eq_self (h c hc)
  rw [List.map_congr_left hchar, List.map_id]

theorem upper_eq_of_eqIgnoringAsciiCase {s t : String}
    (h : eqIgnoringAsciiCase (upper s) (upper t) = true) : upper s = upper t := by
  have hrestored := congrArg (List.map Char.toUpper) (eqIgnoringAsciiCase_iff.mp h)
  rw [map_toUpper_map_toLower fun _ => isLower_of_mem_upper,
    map_toUpper_map_toLower fun _ => isLower_of_mem_upper] at hrestored
  exact String.toList_injective hrestored

/-- Texts that are the same to a third up to case have the same upper case. -/
theorem upper_eq_of_common {s t u : String} (hs : eqIgnoringAsciiCase (upper s) u = true)
    (ht : eqIgnoringAsciiCase (upper t) u = true) : upper s = upper t := by
  apply upper_eq_of_eqIgnoringAsciiCase
  rw [eqIgnoringAsciiCase_iff] at hs ht ⊢
  rw [hs, ht]

/-- All characters are ASCII. -/
def IsAscii (s : String) : Prop := ∀ c ∈ s.toList, c.toNat < 0x80

theorem toList_upper_of_isAscii {s : String} (h : IsAscii s) :
    (upper s).toList = s.toList.map Char.toUpper := by
  have hletters : s.toList.map upperLetter = s.toList.map fun c => [c.toUpper] :=
    List.map_congr_left fun c hc => upperLetter_ascii (h c hc)
  rw [upper, String.toList_ofList, List.flatMap_def, hletters, ← List.flatMap_def,
    ← List.map_eq_flatMap]

/-- Upper case does not tell an ASCII text from its variants in case. -/
theorem eqIgnoringAsciiCase_upper {s t : String} (h : IsAscii s)
    (hst : eqIgnoringAsciiCase t s = true) : eqIgnoringAsciiCase (upper s) t = true := by
  rw [eqIgnoringAsciiCase_iff] at hst ⊢
  rw [hst, toList_upper_of_isAscii h, List.map_map]
  apply List.map_congr_left
  intro c _
  exact Char.toLower_toUpper_eq_toLower c

/-! ## Lower case of ASCII texts -/

theorem toNat_toLower_lt_iff {c : Char} : c.toLower.toNat < 0x80 ↔ c.toNat < 0x80 := by
  unfold Char.toLower
  split
  · rename_i h
    obtain ⟨hfirst, hlast⟩ := h
    rw [ge_iff_le, UInt32.le_iff_toNat_le] at hfirst
    rw [UInt32.le_iff_toNat_le] at hlast
    simp [← Char.toNat_val] at hfirst hlast ⊢
    omega
  · rfl

/-- Among ASCII letters there is no sigma, so that no letter depends on its neighbours. -/
theorem lowerAfter_of_ascii {cs : List Char} (h : ∀ c ∈ cs, c.toNat < 0x80) (before : List Char) :
    lowerAfter before cs = cs.map Char.toLower := by
  induction cs generalizing before with
  | nil => rfl
  | cons c cs ih =>
    rw [List.forall_mem_cons] at h
    have hsigma : c ≠ 'Σ' := by
      rintro rfl
      exact absurd h.1 (by decide)
    rw [lowerAfter, if_neg hsigma, lowerLetter_ascii h.1, ih h.2, List.map_cons]
    rfl

theorem toList_lower_of_isAscii {s : String} (h : IsAscii s) :
    (lower s).toList = s.toList.map Char.toLower := by
  rw [lower, String.toList_ofList, lowerAfter_of_ascii h]

theorem isAscii_of_eqIgnoringAsciiCase {s t : String} (h : IsAscii s)
    (hst : eqIgnoringAsciiCase s t = true) : IsAscii t := by
  rw [eqIgnoringAsciiCase_iff] at hst
  intro c hc
  have hlow : c.toLower ∈ s.toList.map Char.toLower := hst ▸ List.mem_map_of_mem hc
  obtain ⟨d, hd, hcd⟩ := List.mem_map.mp hlow
  rw [← toNat_toLower_lt_iff, ← hcd, toNat_toLower_lt_iff]
  exact h d hd

/-- Lower case does not tell an ASCII text from its variants in case. -/
theorem lower_eq_of_eqIgnoringAsciiCase {s t : String} (h : IsAscii s)
    (hst : eqIgnoringAsciiCase s t = true) : lower s = lower t := by
  rw [← String.toList_inj, toList_lower_of_isAscii h,
    toList_lower_of_isAscii (isAscii_of_eqIgnoringAsciiCase h hst)]
  exact eqIgnoringAsciiCase_iff.mp hst

end Text
end ApiMapping
