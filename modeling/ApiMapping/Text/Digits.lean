/-!
# Digits in a text

Integers are written in decimal digits, and bytes of a URL in hexadecimal ones.
-/

namespace ApiMapping
namespace Text

/-! ## Integers

ASCII digits only, any number of leading zeros, no blanks. Which signs and which
values are accepted is the reader's choice.
-/

def digit? (c : Char) : Option Nat :=
  if '0' ≤ c ∧ c ≤ '9' then some (c.toNat - '0'.toNat) else none

def isDigit (c : Char) : Bool := (digit? c).isSome

/-- The number that digits of a base, most significant first, stand for. -/
def ofDigits (base : Nat) (ds : List Nat) : Nat := ds.foldl (fun n d => base * n + d) 0

/-- One or more decimal digits. -/
def natural? (cs : List Char) : Option Nat :=
  match cs with
  | [] => none
  | _ => (cs.mapM digit?).map (ofDigits 10)

/-- A number below `limit`; a plus sign may stand in front. -/
def unsigned? (limit : Nat) (cs : List Char) : Option Nat :=
  let digits := match cs with
    | '+' :: rest => rest
    | _ => cs
  (natural? digits).filter (· < limit)

/-- A number from `-2 ^ 63` to `2 ^ 63 - 1`; one sign may stand in front. -/
def signed? (cs : List Char) : Option Int :=
  match cs with
  | '-' :: rest => ((natural? rest).filter (· ≤ Nat.pow 2 63)).map fun n => -(n : Int)
  | '+' :: rest => ((natural? rest).filter (· < Nat.pow 2 63)).map Int.ofNat
  | _ => ((natural? cs).filter (· < Nat.pow 2 63)).map Int.ofNat

/-- Decimal digits without superfluous zeros. -/
def ofNat (n : Nat) : List Char := Nat.toDigits 10 n

def ofInt : Int → List Char
  | .ofNat n => ofNat n
  | .negSucc n => '-' :: ofNat (n + 1)

/-! ## Percent encoding

Every byte outside the unreserved characters is written as a percent sign and two
upper-case hexadecimal digits. Reading replaces each complete escape and keeps
every other percent sign as it stands; the bytes must then be UTF-8.
-/

/-- Letters, digits, hyphen, underscore, full stop and tilde. -/
def isUnreserved (b : UInt8) : Bool :=
  let c := Char.ofNat b.toNat
  c.isAlphanum || c == '-' || c == '_' || c == '.' || c == '~'

def hexDigit (n : Nat) : Char :=
  if n < 10 then Char.ofNat ('0'.toNat + n) else Char.ofNat ('A'.toNat + (n - 10))

/-- The value of a hexadecimal digit of either case. -/
def hexValue? (c : Char) : Option Nat :=
  if '0' ≤ c ∧ c ≤ '9' then some (c.toNat - '0'.toNat)
  else if 'A' ≤ c ∧ c ≤ 'F' then some (c.toNat - 'A'.toNat + 10)
  else if 'a' ≤ c ∧ c ≤ 'f' then some (c.toNat - 'a'.toNat + 10)
  else none

def escapeByte (b : UInt8) : List Char :=
  if isUnreserved b then [Char.ofNat b.toNat]
  else ['%', hexDigit (b.toNat / 16), hexDigit (b.toNat % 16)]

def utf8 (cs : List Char) : List UInt8 := cs.flatMap String.utf8EncodeChar

def percentEncode (cs : List Char) : List Char := (utf8 cs).flatMap escapeByte

/-- The bytes of a text, each complete escape replaced by the byte it stands for. -/
def unescapeBytes : List Char → List UInt8
  | '%' :: h :: l :: rest =>
    match hexValue? h, hexValue? l with
    | some a, some b => UInt8.ofNat (16 * a + b) :: unescapeBytes rest
    | _, _ => String.utf8EncodeChar '%' ++ unescapeBytes (h :: l :: rest)
  | c :: rest => String.utf8EncodeChar c ++ unescapeBytes rest
  | [] => []

/-- `none` if the bytes are not UTF-8. -/
def percentDecode? (cs : List Char) : Option (List Char) :=
  (ByteArray.mk (unescapeBytes cs).toArray).utf8Decode?.map Array.toList

end Text
end ApiMapping
