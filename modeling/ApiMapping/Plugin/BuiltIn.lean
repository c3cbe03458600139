import ApiMapping.Number.Notation
import ApiMapping.Plugin.Basic
import ApiMapping.Text.Basic
import ApiMapping.Text.Digits

/-!
# The built-in plugins

Three instances that every gateway has. They are registered but not bound: a
configuration decides how they are called.
-/

namespace ApiMapping

/-! ## Random transaction identifiers

128 random bits in 32 hexadecimal digits and five groups. One digit tells the
version, and two bits of another the variant.
-/

namespace TransactionId

/-- The bits with version 4 and the variant `10` in their places. -/
def stamped (bits : BitVec 128) : BitVec 128 :=
  bits.extractLsb' 80 48 ++ (4 : BitVec 4) ++ bits.extractLsb' 64 12 ++ (2 : BitVec 2) ++
    bits.extractLsb' 0 62

/-- `count` hexadecimal digits of a number. -/
def hexDigits : Nat → Nat → List Char
  | 0, _ => []
  | count + 1, n => hexDigits count (n / 16) ++ [Nat.digitChar (n % 16)]

def grouped (digits : List Char) : List Char :=
  digits.take 8 ++ '-' :: (digits.drop 8).take 4 ++ '-' :: (digits.drop 12).take 4 ++
    '-' :: (digits.drop 16).take 4 ++ '-' :: digits.drop 20

/-- The identifier that random bits give. -/
def text (bits : BitVec 128) : String :=
  String.ofList (grouped (hexDigits 32 (stamped bits).toNat))

/-- The arguments do not matter. -/
def plugin (bits : BitVec 128) : Plugin := fun _ => .string (text bits)

end TransactionId

/-! ## How recently a SIM card was swapped

Hours since the swap fall into four ranges, and the plugin tells whether a score is
the number of the range. Numbers may also come as texts.
-/

namespace SimSwap

open Number

/-- The value of a number or of a text that spells one. -/
def number? : Json → Option Binary64
  | .number n => n.toBinary64?
  | .string s => finite? (Text.trim s.toList)
  | _ => none

def whole (n : Nat) : Binary64 := (Binary64.ofNat? n).getD (Binary64.zero false)

/-- The number of the range: below a day, up to two, up to three, and beyond. -/
def rangeOf (hours : Binary64) : Nat :=
  if hours.compareTo (whole 24) = .lt then 1
  else if hours.compareTo (whole 48) ≠ .gt then 2
  else if hours.compareTo (whole 72) ≠ .gt then 3
  else 4

/-- The score is that of the hours' range. -/
def agrees (hours score : Binary64) : Bool := score.compareTo (whole (rangeOf hours)) == .eq

def plugin : Plugin
  | [hours, score] =>
    match number? hours, number? score with
    | some h, some s => .bool (agrees h s)
    | _, _ => .string "Error"
  | _ => .string "Error"

end SimSwap

/-! ## Timestamps

An instant is the number of nanoseconds since the first of January 1970. It is
written as a date and a time of day in UTC; a fraction of a second has three, six or
nine digits.
-/

namespace Timestamp

/-- A day of the Gregorian calendar. -/
structure Date where
  year : Nat
  month : Nat
  day : Nat
deriving DecidableEq, Repr

/-- The date of a day. Years are counted from March, so that leap days come last. -/
def dateOf (daysSinceEpoch : Nat) : Date :=
  let z := daysSinceEpoch + 719468
  let era := z / 146097
  let dayOfEra := z % 146097
  let yearOfEra := (dayOfEra - dayOfEra / 1460 + dayOfEra / 36524 - dayOfEra / 146096) / 365
  let dayOfYear := dayOfEra - (365 * yearOfEra + yearOfEra / 4 - yearOfEra / 100)
  let shifted := (5 * dayOfYear + 2) / 153
  let month := if shifted < 10 then shifted + 3 else shifted - 9
  let year := yearOfEra + era * 400 + (if month ≤ 2 then 1 else 0)
  ⟨year, month, dayOfYear - (153 * shifted + 2) / 5 + 1⟩

/-- Decimal digits with zeros in front, at least `width` of them. -/
def padded (width n : Nat) : List Char :=
  let digits := Text.ofNat n
  List.replicate (width - digits.length) '0' ++ digits

/-- The fraction of a second with as few groups of three digits as it takes. -/
def fraction (nanoseconds : Nat) : List Char :=
  if nanoseconds = 0 then []
  else if nanoseconds % 1000000 = 0 then '.' :: padded 3 (nanoseconds / 1000000)
  else if nanoseconds % 1000 = 0 then '.' :: padded 6 (nanoseconds / 1000)
  else '.' :: padded 9 nanoseconds

/-- The instant as date and time in UTC. -/
def text (instant : Nat) : String :=
  let seconds := instant / 1000000000
  let date := dateOf (seconds / 86400)
  let second := seconds % 86400
  String.ofList <|
    padded 4 date.year ++ '-' :: padded 2 date.month ++ '-' :: padded 2 date.day ++ 'T' ::
      padded 2 (second / 3600) ++ ':' :: padded 2 (second / 60 % 60) ++ ':' ::
      padded 2 (second % 60) ++ fraction (instant % 1000000000) ++ "+00:00".toList

/-- The arguments do not matter. -/
def plugin (instant : Nat) : Plugin := fun _ => .string (text instant)

end Timestamp

/-! ## The table of a new gateway

Three instances that every gateway has. They are registered but not bound: a
configuration decides how they are called.
-/

/-- What the plugins take from outside: random bits, and nanoseconds since 1970. -/
structure Surroundings where
  bits : BitVec 128
  instant : Nat
deriving Inhabited

namespace PluginTable

def builtIns (s : Surroundings) : List (String × Plugin) :=
  [("GenerateTransactionIDPluginInstance", TransactionId.plugin s.bits),
   ("SimSwapPluginInstance", SimSwap.plugin),
   ("CurrentTimestampPluginInstance", Timestamp.plugin s.instant)]

/-- Register the built-in instances; one that is there already stays as it is. -/
def registerBuiltIns (t : PluginTable) (s : Surroundings) : PluginTable :=
  (builtIns s).foldl (fun t (name, plugin) => (Update.registerInstance name plugin).after t) t

def withBuiltIns (s : Surroundings) : PluginTable := empty.registerBuiltIns s

end PluginTable

end ApiMapping
