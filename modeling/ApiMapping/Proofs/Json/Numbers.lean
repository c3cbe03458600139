import ApiMapping.Json.Reader
import ApiMapping.Proofs.Document.Values
import ApiMapping.Proofs.Number.Scaling

/-!
# Numbers in JSON text

The characters of a number are read as the same scalar whether they end the text or a sign of the
text follows. The scalar of an integer is that integer. The scalar of a binary number may be the
number beside it or, if that would be too large, none, but short numbers are kept. Whatever
number is read is in its one form.
-/

namespace ApiMapping
namespace Json

open Document

/-- What may stand behind a value: the end of the text, or a sign that ends an item or a member. -/
def Delimited (rest : List Char) : Prop := ∀ c, rest.head? = some c → c = ',' ∨ c = ']' ∨ c = '}'

theorem delimited_nil : Delimited [] := nofun

theorem delimited_cons {c : Char} (h : c = ',' ∨ c = ']' ∨ c = '}') (rest : List Char) :
    Delimited (c :: rest) := by
  intro d hd
  rwa [← Option.some.inj hd]

/-! ## Digits -/

section Digits

variable {ds rest : List Char}

theorem takeWhile_isDigit (hds : ∀ c ∈ ds, c.isDigit = true)
    (hrest : ∀ c, rest.head? = some c → c.isDigit = false) :
    (ds ++ rest).takeWhile Text.isDigit = ds := by
  rw [List.takeWhile_append_of_pos fun c hc => by rw [Text.isDigit_eq, hds c hc]]
  cases rest with
  | nil => simp
  | cons c rest => simp [Text.isDigit_eq, hrest c rfl]

theorem dropWhile_isDigit (hds : ∀ c ∈ ds, c.isDigit = true)
    (hrest : ∀ c, rest.head? = some c → c.isDigit = false) :
    (ds ++ rest).dropWhile Text.isDigit = rest := by
  rw [List.dropWhile_append_of_pos fun c hc => by rw [Text.isDigit_eq, hds c hc]]
  cases rest with
  | nil => rfl
  | cons c rest => simp [Text.isDigit_eq, hrest c rfl]

theorem Delimited.head_not_digit (h : Delimited rest) (c : Char) (hc : rest.head? = some c) :
    c.isDigit = false := by
  rcases h c hc with rfl | rfl | rfl <;> rfl

end Digits

section Reading

variable {whole fraction rest : List Char} (negative : Bool)

theorem readNumber_append (hwhole : Number.Whole whole)
    (hrest : ∀ c, rest.head? = some c → c.isDigit = false) :
    readNumber negative (whole ++ rest) = readBehind negative whole rest := by
  unfold readNumber
  rw [takeWhile_isDigit hwhole.digits hrest, dropWhile_isDigit hwhole.digits hrest]
  dsimp only
  split
  · exact absurd rfl hwhole.nonempty
  · cases hwhole.leading rfl
  · rfl

theorem readBehind_delimited (hrest : Delimited rest) :
    readBehind negative whole rest = .scalar (wholeNumber negative whole) rest := by
  cases rest with
  | nil => rfl
  | cons c rest => rcases hrest c rfl with rfl | rfl | rfl <;> rfl

theorem readPower_delimited (hrest : Delimited rest) :
    readPower negative whole fraction rest =
      .scalar (ofBinary64? ((Number.keptDecimal whole fraction 0).approximate? negative)) rest := by
  cases rest with
  | nil => rfl
  | cons c rest => rcases hrest c rfl with rfl | rfl | rfl <;> rfl

theorem readBehind_point (hne : fraction ≠ []) (hfraction : ∀ c ∈ fraction, c.isDigit = true)
    (hrest : ∀ c, rest.head? = some c → c.isDigit = false) :
    readBehind negative whole ('.' :: (fraction ++ rest)) =
      readPower negative whole fraction rest := by
  simp only [readBehind, takeWhile_isDigit hfraction hrest, dropWhile_isDigit hfraction hrest,
    List.isEmpty_eq_false_iff.mpr hne]
  rfl

theorem readBehind_mark :
    readBehind negative whole ('e' :: rest) = readPower negative whole [] ('e' :: rest) := rfl

/-- An exponent with its sign. -/
theorem readPower_exponent (whole fraction : List Char) (e : Int) (hrest : Delimited rest) :
    readPower negative whole fraction
        ('e' :: (if e < 0 then '-' else '+') :: (Text.ofNat e.natAbs ++ rest)) =
      .scalar (ofBinary64? ((Number.keptDecimal whole fraction e).approximate? negative)) rest := by
  have hdigits : ∀ c ∈ Text.ofNat e.natAbs, c.isDigit = true := fun _ => Text.isDigit_of_mem_ofNat
  have hread : ∀ minus : Bool, readExponent negative whole fraction
      ((if minus then '-' else '+') :: (Text.ofNat e.natAbs ++ rest)) =
        .scalar (ofBinary64? ((Number.keptDecimal whole fraction
          (if minus then -(e.natAbs : Int) else e.natAbs)).approximate? negative)) rest := by
    intro minus
    unfold readExponent
    cases minus <;>
      simp only [Bool.false_eq_true, ↓reduceIte, takeWhile_isDigit hdigits hrest.head_not_digit,
        dropWhile_isDigit hdigits hrest.head_not_digit, Text.natural?_ofNat]
  have hexponent : (if e < 0 then -(e.natAbs : Int) else e.natAbs) = e := by
    split <;> omega
  have hsigned := hread (decide (e < 0))
  simp only [decide_eq_true_eq, hexponent] at hsigned
  exact hsigned

end Reading

/-! ## Numbers -/

theorem wholeNumber_ofNat (n : Nat) (h : inIntegerRange n = true) :
    wholeNumber false (Text.ofNat n) = .number (.integer n) := by
  simp [wholeNumber, Text.natural?_ofNat, h]

theorem wholeNumber_ofNat_succ (n : Nat) (h : inIntegerRange (Int.negSucc n) = true) :
    wholeNumber true (Text.ofNat (n + 1)) = .number (.integer (Int.negSucc n)) := by
  unfold wholeNumber
  rw [Text.natural?_ofNat]
  change (if (true = true ∧ n + 1 = 0) ∨ (!inIntegerRange (Int.negSucc n)) = true then _
    else Scalar.number (.integer (Int.negSucc n))) = _
  rw [if_neg]
  simp [h]

/-- However the digits are laid out, those that are kept are scaled. -/
theorem readNumber_of_laid {whole fraction text rest : List Char} {power : Int} (negative : Bool)
    (h : Number.Laid whole fraction power text) (hrest : Delimited rest) :
    readNumber negative (text ++ rest) = .scalar (ofBinary64?
      ((Number.keptDecimal whole fraction power).approximate? negative)) rest := by
  cases h with
  | pointed hwhole hfraction hne =>
    rw [List.append_assoc, List.cons_append, readNumber_append _ hwhole (by simp),
      readBehind_point _ hne hfraction hrest.head_not_digit, readPower_delimited _ hrest]
  | scientific hwhole hfraction =>
    have hpower := readPower_exponent negative whole fraction power hrest
    rw [List.append_assoc, List.append_assoc, List.cons_append, List.cons_append]
    split
    · rename_i hnone
      subst hnone
      rw [List.nil_append, readNumber_append _ hwhole (by simp), readBehind_mark, hpower]
    · rename_i hsome
      rw [List.cons_append, readNumber_append _ hwhole (by simp),
        readBehind_point _ hsome hfraction (by simp), hpower]

/-- The digits of a binary number, whatever sign they have. -/
theorem exists_laid_unsignedText {x : Number.Binary64} (hx : x.Canonical) :
    ∃ whole fraction power, Number.Laid whole fraction power x.unsignedText ∧
      (x.mantissa = 0 ∨ x.Short →
        (Number.keptDecimal whole fraction power).approximate? x.negative = some x) := by
  by_cases hzero : x.mantissa = 0
  · refine ⟨['0'], ['0'], 0, ?_, fun _ => ?_⟩
    · rw [Number.Binary64.unsignedText, if_pos hzero]
      exact .pointed (Number.whole_ofNat 0) (by simp) (List.cons_ne_nil _ _)
    · conv_rhs => rw [hx.eq_zero hzero]
      exact Number.Decimal.approximate?_of_digits_eq_zero rfl rfl x.negative
  · have hm := Nat.pos_of_ne_zero hzero
    by_cases hshort : x.Short
    · obtain ⟨whole, fraction, power, hlaid, hread⟩ := hshort.exists_laid hx hm
      exact ⟨whole, fraction, power, hlaid, fun _ => hread⟩
    · obtain ⟨whole, fraction, power, hlaid, -⟩ := Number.Binary64.exists_laid hx hm rfl
      exact ⟨whole, fraction, power, hlaid, fun h => absurd h (not_or_intro hzero hshort)⟩

/-- What is read as digits starts with one, so it is no other scalar. -/
theorem readScalar_of_readNumber {cs rest : List Char} {s : Scalar}
    (h : readNumber false cs = .scalar s rest) : readScalar cs = .scalar s rest := by
  cases cs with
  | nil => cases h
  | cons c cs =>
    have hdigit : c.isDigit = true := by
      by_contra hnot
      rw [← Text.isDigit_eq, Bool.not_eq_true] at hnot
      unfold readNumber at h
      rw [List.takeWhile_cons_of_neg (by simp [hnot])] at h
      dsimp only [missingDigits] at h
      split at h <;> cases h
    rw [← h]
    unfold readScalar
    split <;> rename_i heq
    · cases heq
    all_goals
      cases heq
      first
      | exact absurd hdigit (by decide)
      | rw [if_pos (by rw [Text.isDigit_eq, hdigit])]

theorem readScalar_ofInt {i : Int} (hi : inIntegerRange i = true) {rest : List Char}
    (hrest : Delimited rest) :
    readScalar (Text.ofInt i ++ rest) = .scalar (.number (.integer i)) rest := by
  cases i with
  | ofNat n =>
    refine readScalar_of_readNumber ?_
    change readNumber false (Text.ofNat n ++ rest) = _
    rw [readNumber_append _ (Number.whole_ofNat _) hrest.head_not_digit,
      readBehind_delimited _ hrest, wholeNumber_ofNat n hi]
    rfl
  | negSucc n =>
    change readNumber true (Text.ofNat (n + 1) ++ rest) = _
    rw [readNumber_append _ (Number.whole_ofNat _) hrest.head_not_digit,
      readBehind_delimited _ hrest, wholeNumber_ofNat_succ n hi]

/-- The sign is read first. -/
theorem readScalar_text {x : Number.Binary64} {s : Scalar} {rest : List Char}
    (h : readNumber x.negative (x.unsignedText ++ rest) = .scalar s rest) :
    readScalar (x.text ++ rest) = .scalar s rest := by
  cases hnegative : x.negative with
  | true =>
    rw [hnegative] at h
    rw [Number.Binary64.text, if_pos hnegative]
    exact h
  | false =>
    rw [hnegative] at h
    rw [Number.Binary64.text, hnegative]
    exact readScalar_of_readNumber h

/-- The digits are read the same wherever the number stands. -/
theorem exists_readScalar_text {x : Number.Binary64} (hx : x.Canonical) :
    ∃ result, (x.mantissa = 0 ∨ x.Short → result = some x) ∧
      ∀ rest, Delimited rest → readScalar (x.text ++ rest) = .scalar (ofBinary64? result) rest := by
  obtain ⟨whole, fraction, power, hlaid, hshort⟩ := exists_laid_unsignedText hx
  exact ⟨_, hshort, fun _ hrest => readScalar_text (readNumber_of_laid x.negative hlaid hrest)⟩

/-! ## What is read -/

section Proper

variable {room : Nat} (negative : Bool)

theorem proper_approximate (d : Number.Decimal) :
    (ofBinary64? (d.approximate? negative)).Proper := by
  cases h : d.approximate? negative with
  | none => trivial
  | some x => exact Number.Decimal.canonical_of_approximate? h

theorem fits_missingDigits (rest : List Char) : (missingDigits rest).node.Fits room := by
  cases rest <;> exact .stopped

theorem fits_readExponent (whole fraction cs : List Char) :
    (readExponent negative whole fraction cs).node.Fits room := by
  unfold readExponent
  dsimp only
  split
  · exact fits_missingDigits _
  · exact .scalar (proper_approximate _ _)

theorem fits_readPower (whole fraction rest : List Char) :
    (readPower negative whole fraction rest).node.Fits room := by
  unfold readPower
  dsimp only
  split
  · split
    · exact fits_readExponent _ _ _ _
    · exact .scalar (proper_approximate _ _)
  · exact .scalar (proper_approximate _ _)

theorem proper_wholeNumber (whole : List Char) : (wholeNumber negative whole).Proper := by
  unfold wholeNumber
  dsimp only
  generalize (Text.natural? whole).getD 0 = n
  generalize (if negative then -(n : Int) else n) = i
  split
  · exact proper_approximate _ _
  · rename_i h
    rw [not_or, Bool.not_eq_true', Bool.not_eq_false] at h
    exact h.2

theorem fits_readNumber (cs : List Char) : (readNumber negative cs).node.Fits room := by
  unfold readNumber
  dsimp only
  split
  · exact fits_missingDigits _
  · exact .stopped
  · unfold readBehind
    split
    · dsimp only
      split
      · exact fits_missingDigits _
      · exact fits_readPower _ _ _ _
    · split
      · exact fits_readPower _ _ _ _
      · exact .scalar (proper_wholeNumber _ _)
    · exact .scalar (proper_wholeNumber _ _)

end Proper

end Json
end ApiMapping
