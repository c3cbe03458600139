import ApiMapping.Number.Binary64
import ApiMapping.Text.Digits

/-!
# How numbers are written and read

A number is written with the fewest digits that read back. Decimals are read in more forms than
are written.
-/

namespace ApiMapping
namespace Number

/-! ## The fewest digits that read back

The reals that round to a number form an interval. The shortest decimal in it is
looked for on grids of 1, 2, … 17 digits; the first grid with a hit gives the
digits, of two hits the nearer one, and at an exact tie the even one.
-/

/-- Order of `a * 10 ^ i` and `n * 2 ^ j`, exactly. -/
def compareScaled (a : Nat) (i : Int) (n : Nat) (j : Int) : Ordering :=
  compare (a * Nat.pow 10 i.toNat * Nat.pow 2 (-j).toNat)
    (n * Nat.pow 2 j.toNat * Nat.pow 10 (-i).toNat)

namespace Binary64

/-- Below a power of two the neighbours are twice as close. -/
def narrowBelow (x : Binary64) : Bool :=
  x.mantissa == Nat.pow 2 52 && x.exponent != leastExponent

/-- The decimal lies among the reals that round to `x`, the ends included exactly
if the mantissa is even. -/
def readsBack (x : Binary64) (d : Decimal) : Bool :=
  let below := if x.narrowBelow then 4 * x.mantissa - 1 else 4 * x.mantissa - 2
  let above := 4 * x.mantissa + 2
  let closed := x.mantissa % 2 == 0
  let low := compareScaled d.digits d.exponent below (x.exponent - 2)
  let high := compareScaled d.digits d.exponent above (x.exponent - 2)
  (low == .gt || (closed && low == .eq)) && (high == .lt || (closed && high == .eq))

/-- The least `k` with `x < 10 ^ k`, from an estimate that is at most two too small. -/
def magnitude (x : Binary64) : Int :=
  let bits : Int := x.mantissa.log2 + x.exponent
  let start : Int := (bits * 30103).fdiv 100000
  let exceeds (k : Int) := compareScaled 1 k x.mantissa x.exponent == .gt
  if exceeds start then start else if exceeds (start + 1) then start + 1 else start + 2

/-- The value divided by `10 ^ e`, rounded down. -/
def floorScaled (x : Binary64) (e : Int) : Nat :=
  (x.mantissa * Nat.pow 2 x.exponent.toNat * Nat.pow 10 (-e).toNat) /
    (Nat.pow 2 (-x.exponent).toNat * Nat.pow 10 e.toNat)

/-- The decimal on one grid that reads back, if there is one. -/
def onGrid? (x : Binary64) (e : Int) : Option Decimal :=
  let f := x.floorScaled e
  let lower : Decimal := ⟨f, e⟩
  let higher : Decimal := ⟨f + 1, e⟩
  match x.readsBack lower, x.readsBack higher with
  | false, false => none
  | true, false => some lower
  | false, true => some higher
  | true, true =>
    match compareScaled (2 * f + 1) e (2 * x.mantissa) x.exponent with
    | .lt => some higher
    | .gt => some lower
    | .eq => some (if f % 2 = 0 then lower else higher)

/-- The shortest decimal that reads back; seventeen digits always do. -/
def shortest (x : Binary64) : Decimal :=
  let k := x.magnitude
  match (List.range 17).findSome? fun n : Nat => x.onGrid? (k - (n + 1 : Nat)) with
  | some d => d
  | none => ⟨x.floorScaled (k - 17), k - 17⟩

end Binary64

/-! ## Layouts

From `1e-5` up to below `1e16` the digits are written around a point, and a whole
number keeps one zero after it. Beyond, one digit stands before the point and the
exponent has a sign.
-/

/-- The significant digits and the exponent of the first one. -/
def significant (d : Decimal) : List Char × Int :=
  let digits := Text.ofNat d.digits
  let kept := (digits.reverse.dropWhile (· == '0')).reverse
  (kept, d.exponent + digits.length - 1)

/-- Digits around a point; `e` is the exponent of the first digit. -/
def positional (digits : List Char) (e : Int) : List Char :=
  if e < 0 then '0' :: '.' :: (List.replicate (-e - 1).toNat '0' ++ digits)
  else
    let whole := e.toNat + 1
    if digits.length ≤ whole then
      digits ++ List.replicate (whole - digits.length) '0' ++ ['.', '0']
    else digits.take whole ++ '.' :: digits.drop whole

/-- One digit before the point, and an exponent with its sign. -/
def scientific (digits : List Char) (e : Int) : List Char :=
  let fraction := match digits.drop 1 with
    | [] => []
    | rest => '.' :: rest
  digits.take 1 ++ fraction ++ 'e' :: (if e < 0 then '-' else '+') :: Text.ofNat e.natAbs

namespace Binary64

/-- The number without its sign. -/
def unsignedText (x : Binary64) : List Char :=
  if x.mantissa = 0 then ['0', '.', '0']
  else
    let (digits, e) := significant x.shortest
    if -5 ≤ e ∧ e < 16 then positional digits e else scientific digits e

def text (x : Binary64) : List Char :=
  if x.negative then '-' :: x.unsignedText else x.unsignedText

end Binary64

/-! ## Reading a decimal

A sign, digits with an optional point on either side of which digits may be
missing, but not on both, and an optional exponent. The words for infinity and for
what is not a number name no finite number and are not read. A reader that goes over the
digits only once keeps those that fit into 64 bits.
-/

/-- The decimal of the digits before and after the point, scaled by a power of ten. -/
def decimalOf (whole fraction : List Char) (power : Int) : Decimal :=
  ⟨Text.ofDigits 10 ((whole ++ fraction).filterMap Text.digit?), power - fraction.length⟩

/-- Digits put behind a number for as long as it stays below `2 ^ 64`, and the digits that are
left. -/
def keepDigits (n : Nat) : List Nat → Nat × List Nat
  | [] => (n, [])
  | d :: ds => if 10 * n + d < UInt64.size then keepDigits (10 * n + d) ds else (n, d :: ds)

/-- The decimal of the digits that are kept. Of the others, those before the point only move
the exponent, and those behind it are as if they were not there. -/
def keptDecimal (whole fraction : List Char) (power : Int) : Decimal :=
  let (n, moved) := keepDigits 0 (whole.filterMap Text.digit?)
  let (n, lost) := keepDigits n (fraction.filterMap Text.digit?)
  ⟨n, power + moved.length + lost.length - fraction.length⟩

/-- What follows the exponent mark: a sign and one or more digits. -/
def exponent? : List Char → Option Int
  | '-' :: rest => (Text.natural? rest).map fun n => -(n : Int)
  | '+' :: rest => (Text.natural? rest).map Int.ofNat
  | rest => (Text.natural? rest).map Int.ofNat

/-- A decimal without sign. -/
def decimal? (cs : List Char) : Option Decimal :=
  let whole := cs.takeWhile Text.isDigit
  let (fraction, tail) := match cs.dropWhile Text.isDigit with
    | '.' :: rest => (rest.takeWhile Text.isDigit, rest.dropWhile Text.isDigit)
    | rest => ([], rest)
  if whole.isEmpty && fraction.isEmpty then none
  else
    match tail with
    | [] => some (decimalOf whole fraction 0)
    | mark :: rest =>
      if mark = 'e' ∨ mark = 'E' then (exponent? rest).map (decimalOf whole fraction)
      else none

/-- The finite number nearest to the decimal that the text spells. -/
def finite? (cs : List Char) : Option Binary64 :=
  match cs with
  | '-' :: rest => decimal? rest >>= Decimal.toBinary64? true
  | '+' :: rest => decimal? rest >>= Decimal.toBinary64? false
  | _ => decimal? cs >>= Decimal.toBinary64? false

end Number
end ApiMapping
