/-!
# Numbers of 64-bit floating point

A finite number is a sign and `mantissa * 2 ^ exponent`, with a mantissa below `2 ^ 53`.
Every ratio of naturals is rounded to the nearest such number, a tie to the even mantissa,
and so are products and quotients.
-/

namespace ApiMapping
namespace Number

/-- A finite binary floating point number; zero keeps its sign. -/
structure Binary64 where
  negative : Bool
  mantissa : Nat
  exponent : Int
deriving DecidableEq, Repr

/-- A decimal without sign, `digits * 10 ^ exponent`. -/
structure Decimal where
  digits : Nat
  exponent : Int
deriving DecidableEq, Repr

/-- The quotient rounded to the nearest integer, a tie to the even one. -/
def roundDiv (num den : Nat) : Nat :=
  let q := num / den
  match compare (2 * (num % den)) den with
  | .lt => q
  | .gt => q + 1
  | .eq => if q % 2 = 0 then q else q + 1

namespace Binary64

/-- Exponent of the least positive number. -/
def leastExponent : Int := -1074

/-- Exponent of the greatest finite number. -/
def greatestExponent : Int := 971

def zero (negative : Bool) : Binary64 := ⟨negative, 0, leastExponent⟩

/-- `⌊num / den / 2 ^ e⌋` has 53 bits for this `e`, or for one below it. -/
def scaleOf (num den : Nat) : Int :=
  let e := (num.log2 : Int) - den.log2 - 52
  if (num * Nat.pow 2 (-e).toNat) / (den * Nat.pow 2 e.toNat) < Nat.pow 2 52 then e - 1 else e

/-- The number nearest to `num / den`; `none` if it would be infinite. -/
def nearest? (negative : Bool) (num den : Nat) : Option Binary64 :=
  if num = 0 then some (zero negative)
  else
    let e := max (scaleOf num den) leastExponent
    let m := roundDiv (num * Nat.pow 2 (-e).toNat) (den * Nat.pow 2 e.toNat)
    let rounded := if m = Nat.pow 2 53 then ⟨negative, Nat.pow 2 52, e + 1⟩ else ⟨negative, m, e⟩
    if rounded.exponent ≤ greatestExponent then some rounded else none

def ofNat? (n : Nat) : Option Binary64 := nearest? false n 1

def ofInt? (i : Int) : Option Binary64 := nearest? (i < 0) i.natAbs 1

/-- The number nearest to the product. -/
def mul? (x y : Binary64) : Option Binary64 :=
  let e := x.exponent + y.exponent
  nearest? (x.negative != y.negative) (x.mantissa * y.mantissa * Nat.pow 2 e.toNat)
    (Nat.pow 2 (-e).toNat)

/-- The number nearest to the quotient. The divisor must not be zero. -/
def div? (x y : Binary64) : Option Binary64 :=
  let e := x.exponent - y.exponent
  nearest? (x.negative != y.negative) (x.mantissa * Nat.pow 2 e.toNat)
    (y.mantissa * Nat.pow 2 (-e).toNat)

/-- The numbers nearest to the powers of ten, as far as these are finite. -/
def powerOfTen? (k : Nat) : Option Binary64 :=
  if k ≤ 308 then nearest? false (Nat.pow 10 k) 1 else none

/-- Divide by the last of the powers so many times, or until nothing is left. -/
def shrink? : Nat → Binary64 → Option Binary64
  | 0, x => some x
  | n + 1, x =>
    if x.mantissa = 0 then some x
    else powerOfTen? 308 >>= fun p => x.div? p >>= shrink? n

/-- Multiply by a power of ten, or divide by one in as many steps as there have to be. -/
def scaleByTen? (x : Binary64) (e : Int) : Option Binary64 :=
  if 0 ≤ e then
    if x.mantissa = 0 then some x else powerOfTen? e.toNat >>= fun p => x.mul? p
  else
    let steps := (e.natAbs - 1) / 308
    shrink? steps x >>= fun y => powerOfTen? (e.natAbs - 308 * steps) >>= fun p => y.div? p

/-- Order of two finite numbers; the two zeros are equal. -/
def compareTo (x y : Binary64) : Ordering :=
  let e := min x.exponent y.exponent
  let whole (z : Binary64) : Int :=
    let n : Int := Int.ofNat (z.mantissa * Nat.pow 2 (z.exponent - e).toNat)
    if z.negative then -n else n
  compare (whole x) (whole y)

end Binary64

namespace Decimal

/-- The nearest binary number. Exponents far outside the range are decided by the
size of the digits, before any power is formed. -/
def toBinary64? (negative : Bool) (d : Decimal) : Option Binary64 :=
  if d.digits = 0 then some (Binary64.zero negative)
  else if d.exponent > 400 then none
  else if d.exponent < -400 - d.digits.log2 then some (Binary64.zero negative)
  else
    Binary64.nearest? negative (d.digits * Nat.pow 10 d.exponent.toNat)
      (Nat.pow 10 (-d.exponent).toNat)

/-- The number nearest to the digits, scaled by the number nearest to the power of ten. Each
step rounds, so that the result may lie beside the nearest number. -/
def approximate? (negative : Bool) (d : Decimal) : Option Binary64 :=
  Binary64.nearest? negative d.digits 1 >>= fun x => x.scaleByTen? d.exponent

end Decimal

end Number
end ApiMapping
