import ApiMapping.Text.Digits
import Mathlib.Data.List.Basic

/-!
# Spellings of an integer

An integer is spelled by decimal digits with at most one sign before them. It has many spellings
and one without anything superfluous, which is the one that is written. The reader accepts all
spellings of the integers that it has room for, and nothing else.
-/

namespace ApiMapping
namespace Text

/-! ## Digits that are read back

The digits of a number are read as that number, whatever the limit is that the reader
keeps to, so no two numbers have the same digits.
-/

section ReadBack

variable {c : Char} {cs : List Char} {limit n : Nat}

theorem digit?_eq_ite (c : Char) :
    digit? c = if c.isDigit = true then some (c.toNat - '0'.toNat) else none := by
  have hdigit : c.isDigit = true ↔ '0' ≤ c ∧ c ≤ '9' := by
    simp only [Char.isDigit, Bool.and_eq_true, decide_eq_true_eq]
    rfl
  simp only [digit?, hdigit]

theorem isDigit_eq (c : Char) : isDigit c = c.isDigit := by
  rw [isDigit, digit?_eq_ite]
  cases c.isDigit <;> rfl

theorem mapM_digit? (h : ∀ c ∈ cs, c.isDigit = true) :
    cs.mapM digit? = some (cs.map fun c => c.toNat - '0'.toNat) := by
  induction cs with
  | nil => rfl
  | cons c cs ih =>
    rw [List.forall_mem_cons] at h
    rw [List.mapM_cons, digit?_eq_ite, if_pos h.1, ih h.2]
    rfl

theorem ofDigits_map (cs : List Char) :
    ofDigits 10 (cs.map fun c => c.toNat - '0'.toNat) = Nat.ofDigitChars 10 cs 0 := by
  rw [ofDigits, List.foldl_map, Nat.ofDigitChars_eq_foldl]

theorem natural?_of_digits (hne : cs ≠ []) (h : ∀ c ∈ cs, c.isDigit = true) :
    natural? cs = some (Nat.ofDigitChars 10 cs 0) := by
  unfold natural?
  split
  · exact absurd rfl hne
  · rw [mapM_digit? h, Option.map_some, ofDigits_map]

theorem isDigit_of_mem_ofNat (h : c ∈ ofNat n) : c.isDigit = true :=
  Nat.isDigit_of_mem_toDigits (by decide) (by decide) h

theorem ofNat_ne_nil (n : Nat) : ofNat n ≠ [] := Nat.toDigits_ne_nil

/-- There are no superfluous zeros. -/
theorem head?_ofNat_ne_zero (h : 0 < n) : (ofNat n).head? ≠ some '0' := by
  unfold ofNat
  induction n using Nat.base_induction 10 (by decide) with
  | single m hm => simpa [Nat.toDigits_of_lt_base hm] using Nat.ne_of_gt h
  | digit m k hk hm ih =>
    rw [← Nat.toDigits_append_toDigits (by decide) hm hk,
      List.head?_append_of_ne_nil _ Nat.toDigits_ne_nil]
    exact ih hm

theorem natural?_ofNat (n : Nat) : natural? (ofNat n) = some n := by
  rw [natural?_of_digits (ofNat_ne_nil n) fun _ => isDigit_of_mem_ofNat, ofNat,
    Nat.ofDigitChars_ten_toDigits]

/-- Digits of a number below the limit are read as that number. -/
theorem unsigned?_ofNat (h : n < limit) : unsigned? limit (ofNat n) = some n := by
  unfold unsigned?
  split
  · rename_i rest hplus
    have hsign : '+' ∈ ofNat n := by simp [hplus]
    exact absurd (isDigit_of_mem_ofNat hsign) (by decide)
  · dsimp only
    rw [natural?_ofNat, Option.filter_some, if_pos (decide_eq_true h)]

theorem ofNat_injective {m : Nat} (h : ofNat m = ofNat n) : m = n := by
  have hread := congrArg natural? h
  rw [natural?_ofNat, natural?_ofNat] at hread
  exact Option.some.inj hread

end ReadBack

/-! ## Spellings -/

/-- One or more decimal digits, most significant first, and the number that they stand for. -/
structure Digits (ds : List Char) (n : Nat) : Prop where
  nonempty : ds ≠ []
  digits : ∀ c ∈ ds, c.isDigit = true
  value : Nat.ofDigitChars 10 ds 0 = n

/-- Digits behind at most one sign, and the integer that they stand for. -/
inductive Numeral : List Char → Int → Prop
  | bare {ds : List Char} {n : Nat} : Digits ds n → Numeral ds n
  | plus {ds : List Char} {n : Nat} : Digits ds n → Numeral ('+' :: ds) n
  | minus {ds : List Char} {n : Nat} : Digits ds n → Numeral ('-' :: ds) (-n)

/-- Something could be left out: a plus sign, a zero before a digit, or a minus sign before zero. -/
inductive Padded : List Char → Prop
  | plus (ds : List Char) : Padded ('+' :: ds)
  | zero (c : Char) (ds : List Char) : Padded ('0' :: c :: ds)
  | minus (ds : List Char) : Padded ('-' :: '0' :: ds)

/-- The integers of 64 bits of which one is the sign. -/
def Signed64 (i : Int) : Prop := -Int.ofNat (Nat.pow 2 63) ≤ i ∧ i < Int.ofNat (Nat.pow 2 63)

/-! ## The digits of a number -/

section Digits

variable {c : Char} {cs ds : List Char} {n : Nat}

theorem digitChar_of_isDigit (h : c.isDigit = true) : (c.toNat - '0'.toNat).digitChar = c := by
  have hbounds : 48 ≤ c.toNat ∧ c.toNat ≤ 57 := by
    simpa [Char.isDigit, UInt32.le_iff_toNat_le] using h
  have hlt : c.toNat - 48 < 10 := by omega
  apply Char.toNat_inj.mp
  change (c.toNat - 48).digitChar.toNat = c.toNat
  rw [Nat.toNat_digitChar_of_lt_ten hlt]
  omega

theorem sub_lt_ten_of_isDigit (h : c.isDigit = true) : c.toNat - '0'.toNat < 10 := by
  have hchar := digitChar_of_isDigit h
  have hdigit : (c.toNat - '0'.toNat).digitChar.isDigit = true := by rw [hchar, h]
  simpa [Nat.isDigit_digitChar] using hdigit

theorem isDigit_of_mapM_digit? {values : List Nat} (h : cs.mapM digit? = some values) :
    ∀ c ∈ cs, c.isDigit = true := by
  induction cs generalizing values with
  | nil => simp
  | cons c cs ih =>
    simp only [List.mapM_cons, digit?_eq_ite, Option.bind_eq_bind, Option.bind_eq_some_iff] at h
    obtain ⟨d, hd, rest, hrest, _⟩ := h
    have hc : c.isDigit = true := by
      by_contra hnot
      simp [hnot] at hd
    intro e he
    rcases List.mem_cons.mp he with rfl | he
    · exact hc
    · exact ih hrest e he

theorem natural?_eq_some_iff : natural? cs = some n ↔ Digits cs n := by
  constructor
  · intro h
    have hne : cs ≠ [] := by
      rintro rfl
      cases h
    have hread : (cs.mapM digit?).map (ofDigits 10) = some n := by
      obtain ⟨c, rest, rfl⟩ := List.exists_cons_of_ne_nil hne
      exact h
    obtain ⟨values, hvalues, _⟩ := Option.map_eq_some_iff.mp hread
    have hdigits := isDigit_of_mapM_digit? hvalues
    refine ⟨hne, hdigits, ?_⟩
    rw [natural?_of_digits hne hdigits] at h
    exact Option.some.inj h
  · intro h
    rw [natural?_of_digits h.nonempty h.digits, h.value]

theorem digits_ofNat (n : Nat) : Digits (ofNat n) n := natural?_eq_some_iff.mp (natural?_ofNat n)

theorem ofNat_of_isDigit (h : c.isDigit = true) : ofNat (c.toNat - '0'.toNat) = [c] := by
  rw [ofNat, Nat.toDigits_of_lt_base (sub_lt_ten_of_isDigit h), digitChar_of_isDigit h]

/-- Digits behind those of a positive number are digits of the number that they make up together. -/
theorem ofNat_append (hpos : 0 < n) (h : ∀ c ∈ ds, c.isDigit = true) :
    ofNat n ++ ds = ofNat (Nat.ofDigitChars 10 ds n) := by
  induction ds generalizing n with
  | nil => rw [Nat.ofDigitChars_nil, List.append_nil]
  | cons c ds ih =>
    rw [List.forall_mem_cons] at h
    have hnext : 0 < 10 * n + (c.toNat - '0'.toNat) := by omega
    have hdigit : ofNat n ++ [c] = ofNat (10 * n + (c.toNat - '0'.toNat)) := by
      rw [← ofNat_of_isDigit h.1]
      exact Nat.toDigits_append_toDigits (by decide) hpos (sub_lt_ten_of_isDigit h.1)
    rw [Nat.ofDigitChars_cons, ← ih hnext h.2, ← hdigit, List.append_assoc, List.singleton_append]

theorem sub_pos_of_isDigit (h : c.isDigit = true) (hzero : c ≠ '0') :
    0 < c.toNat - '0'.toNat := by
  apply Nat.pos_of_ne_zero
  intro h0
  have hchar := digitChar_of_isDigit h
  rw [h0] at hchar
  exact hzero hchar.symm

/-- Digits are those of their number, unless they have a zero in front of others. -/
theorem Digits.eq_ofNat (h : Digits ds n) (hzero : ∀ c rest, ds ≠ '0' :: c :: rest) :
    ds = ofNat n := by
  obtain ⟨hne, hdigits, rfl⟩ := h
  obtain ⟨c, rest, rfl⟩ := List.exists_cons_of_ne_nil hne
  rw [List.forall_mem_cons] at hdigits
  rw [Nat.ofDigitChars_cons, Nat.mul_zero, Nat.zero_add]
  cases rest with
  | nil => rw [Nat.ofDigitChars_nil, ofNat_of_isDigit hdigits.1]
  | cons d rest =>
    have hc : c ≠ '0' := by
      rintro rfl
      exact hzero d rest rfl
    rw [← ofNat_append (sub_pos_of_isDigit hdigits.1 hc) hdigits.2, ofNat_of_isDigit hdigits.1,
      List.singleton_append]

theorem ofNat_ne_zero_cons (n : Nat) (c : Char) (rest : List Char) : ofNat n ≠ '0' :: c :: rest := by
  intro h
  rcases Nat.eq_zero_or_pos n with rfl | hpos
  · cases h
  · exact head?_ofNat_ne_zero hpos (by rw [h]; rfl)

end Digits

/-! ## Integers -/

section Integers

variable {c : Char} {cs ds : List Char} {i : Int} {n : Nat}

theorem numeral_ofInt (i : Int) : Numeral (ofInt i) i := by
  cases i with
  | ofNat n => exact .bare (digits_ofNat n)
  | negSucc n => exact .minus (digits_ofNat (n + 1))

theorem Digits.ne_sign (h : Digits (c :: ds) n) : c ≠ '+' ∧ c ≠ '-' := by
  have hc := h.digits c List.mem_cons_self
  constructor
  · rintro rfl
    cases hc
  · rintro rfl
    cases hc

theorem Digits.padded_iff (h : Digits ds n) : Padded ds ↔ ∃ c rest, ds = '0' :: c :: rest := by
  constructor
  · rintro (rest | ⟨c, rest⟩ | rest)
    · exact absurd rfl h.ne_sign.1
    · exact ⟨c, rest, rfl⟩
    · exact absurd rfl h.ne_sign.2
  · rintro ⟨c, rest, rfl⟩
    exact .zero c rest

theorem padded_minus_iff : Padded ('-' :: ds) ↔ ∃ rest, ds = '0' :: rest := by
  constructor
  · rintro ⟨⟩
    exact ⟨_, rfl⟩
  · rintro ⟨rest, rfl⟩
    exact .minus rest

/-- Nothing superfluous is written. -/
theorem not_padded_ofInt (i : Int) : ¬ Padded (ofInt i) := by
  cases i with
  | ofNat n =>
    intro h
    obtain ⟨c, rest, hzero⟩ := (digits_ofNat n).padded_iff.mp h
    exact ofNat_ne_zero_cons n c rest hzero
  | negSucc n =>
    intro h
    obtain ⟨rest, hzero⟩ := padded_minus_iff.mp h
    apply head?_ofNat_ne_zero (Nat.succ_pos n)
    rw [hzero, List.head?_cons]

/-- A spelling without anything superfluous is the one that is written. -/
theorem Numeral.eq_ofInt (h : Numeral cs i) (hpadded : ¬ Padded cs) : cs = ofInt i := by
  cases h with
  | @bare ds n hds =>
    apply hds.eq_ofNat
    intro c rest hzero
    exact hpadded (hds.padded_iff.mpr ⟨c, rest, hzero⟩)
  | plus hds => exact absurd (.plus _) hpadded
  | @minus ds n hds =>
    have hne : ∀ rest, ds ≠ '0' :: rest := fun rest hzero =>
      hpadded (padded_minus_iff.mpr ⟨rest, hzero⟩)
    have hwritten := hds.eq_ofNat fun c rest => hne (c :: rest)
    cases n with
    | zero => exact absurd hwritten (hne [])
    | succ n => rw [hwritten]; rfl

theorem numeral_and_not_padded_iff : Numeral cs i ∧ ¬ Padded cs ↔ cs = ofInt i := by
  constructor
  · rintro ⟨h, hpadded⟩
    exact h.eq_ofInt hpadded
  · rintro rfl
    exact ⟨numeral_ofInt i, not_padded_ofInt i⟩

theorem signed64_natCast_iff : Signed64 n ↔ n < Nat.pow 2 63 := by
  unfold Signed64
  rw [Int.ofNat_eq_natCast]
  omega

theorem signed64_neg_natCast_iff : Signed64 (-n) ↔ n ≤ Nat.pow 2 63 := by
  have hpos : 0 < Nat.pow 2 63 := Nat.pow_pos Nat.two_pos
  unfold Signed64
  rw [Int.ofNat_eq_natCast]
  omega

theorem map_filter_natural?_eq_some_iff {p : Nat → Bool} {f : Nat → Int} :
    ((natural? ds).filter p).map f = some i ↔ ∃ n, Digits ds n ∧ p n = true ∧ f n = i := by
  simp only [Option.map_eq_some_iff, Option.filter_eq_some_iff, natural?_eq_some_iff, and_assoc]

theorem signed?_minus_eq_some_iff :
    signed? ('-' :: ds) = some i ↔ ∃ n : Nat, Digits ds n ∧ n ≤ Nat.pow 2 63 ∧ -(n : Int) = i := by
  have hmap : signed? ('-' :: ds) =
      ((natural? ds).filter (· ≤ Nat.pow 2 63)).map fun n : Nat => -(n : Int) := by
    simp only [signed?]
    cases (natural? ds).filter (· ≤ Nat.pow 2 63) <;> rfl
  simp only [hmap, map_filter_natural?_eq_some_iff, decide_eq_true_eq]

theorem signed?_plus_eq_some_iff :
    signed? ('+' :: ds) = some i ↔ ∃ n : Nat, Digits ds n ∧ n < Nat.pow 2 63 ∧ (n : Int) = i := by
  simp only [signed?, map_filter_natural?_eq_some_iff, decide_eq_true_eq, Int.ofNat_eq_natCast]

theorem signed?_bare_eq_some_iff (hplus : c ≠ '+') (hminus : c ≠ '-') :
    signed? (c :: ds) = some i ↔
      ∃ n : Nat, Digits (c :: ds) n ∧ n < Nat.pow 2 63 ∧ (n : Int) = i := by
  have hread : signed? (c :: ds) =
      ((natural? (c :: ds)).filter (· < Nat.pow 2 63)).map Int.ofNat := by
    unfold signed?
    split
    · exact absurd (List.head_eq_of_cons_eq ‹_›) hminus
    · exact absurd (List.head_eq_of_cons_eq ‹_›) hplus
    · rfl
  simp only [hread, map_filter_natural?_eq_some_iff, decide_eq_true_eq, Int.ofNat_eq_natCast]

/-- The reader accepts the spellings of the integers of 64 bits, and no other text. -/
theorem signed?_eq_some_iff : signed? cs = some i ↔ Numeral cs i ∧ Signed64 i := by
  constructor
  · intro h
    cases cs with
    | nil => cases h
    | cons c ds =>
      by_cases hminus : c = '-'
      · subst hminus
        obtain ⟨n, hds, hn, rfl⟩ := signed?_minus_eq_some_iff.mp h
        exact ⟨.minus hds, signed64_neg_natCast_iff.mpr hn⟩
      · by_cases hplus : c = '+'
        · subst hplus
          obtain ⟨n, hds, hn, rfl⟩ := signed?_plus_eq_some_iff.mp h
          exact ⟨.plus hds, signed64_natCast_iff.mpr hn⟩
        · obtain ⟨n, hds, hn, rfl⟩ := (signed?_bare_eq_some_iff hplus hminus).mp h
          exact ⟨.bare hds, signed64_natCast_iff.mpr hn⟩
  · rintro ⟨h, hrange⟩
    cases h with
    | @bare _ n hds =>
      obtain ⟨c, rest, rfl⟩ := List.exists_cons_of_ne_nil hds.nonempty
      apply (signed?_bare_eq_some_iff hds.ne_sign.1 hds.ne_sign.2).mpr
      exact ⟨n, hds, signed64_natCast_iff.mp hrange, rfl⟩
    | @plus _ n hds =>
      apply signed?_plus_eq_some_iff.mpr
      exact ⟨n, hds, signed64_natCast_iff.mp hrange, rfl⟩
    | @minus _ n hds =>
      apply signed?_minus_eq_some_iff.mpr
      exact ⟨n, hds, signed64_neg_natCast_iff.mp hrange, rfl⟩

end Integers

end Text
end ApiMapping
