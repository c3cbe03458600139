import ApiMapping.Document.Basic
import ApiMapping.Number.Notation
import ApiMapping.Text.Basic

/-!
# Words whose type is found from their text

A plain word may be empty or name nothing, be a truth value, an integer in one of
four bases or a decimal. Zeros in front of a decimal integer make it a text.
-/

namespace ApiMapping
namespace Document
namespace Word

def isNull (s : String) : Bool := ["null", "Null", "NULL", "~"].contains s

def bool? (s : String) : Option Bool :=
  if ["true", "True", "TRUE"].contains s then some true
  else if ["false", "False", "FALSE"].contains s then some false
  else none

/-- The value of a digit in bases up to sixteen. -/
def digitIn? (base : Nat) (c : Char) : Option Nat :=
  let value :=
    if '0' ≤ c ∧ c ≤ '9' then c.toNat - '0'.toNat
    else if 'a' ≤ c ∧ c ≤ 'f' then c.toNat - 'a'.toNat + 10
    else if 'A' ≤ c ∧ c ≤ 'F' then c.toNat - 'A'.toNat + 10
    else base
  if value < base then some value else none

/-- One or more digits of a base. -/
def naturalIn? (base : Nat) (cs : List Char) : Option Nat :=
  if cs.isEmpty then none else (cs.mapM (digitIn? base)).map (Text.ofDigits base)

/-- The bases with their marks. -/
def bases : List (List Char × Nat) := [(['0', 'x'], 16), (['0', 'o'], 8), (['0', 'b'], 2)]

/-- Digits of a base that a mark names. -/
def marked? (cs : List Char) : Option Nat :=
  bases.findSome? fun (mark, base) => Text.afterStart? mark cs >>= naturalIn? base

/-- More than one digit, the first of them zero. -/
def hasLeadingZero (cs : List Char) : Bool :=
  match cs with
  | '0' :: d :: rest => (d :: rest).all Text.isDigit
  | _ => false

/-- Digits of any base without a sign. -/
def unsigned? (cs : List Char) : Option Nat :=
  match marked? cs with
  | some n => some n
  | none => if hasLeadingZero cs then none else naturalIn? 10 cs

/-- A whole number of any size; a plus sign may stand in front. -/
def natural? (cs : List Char) : Option Nat :=
  match cs with
  | '+' :: rest => unsigned? rest
  | _ => unsigned? cs

/-- An integer of any size. -/
def integer? (cs : List Char) : Option Int :=
  match cs with
  | '+' :: rest => (unsigned? rest).map Int.ofNat
  | '-' :: rest => (unsigned? rest).map fun n => -(n : Int)
  | _ => (unsigned? cs).map Int.ofNat

/-- Integers of up to 128 bits are told from decimals. -/
def isWide (i : Int) : Bool := -Int.ofNat (Nat.pow 2 127) ≤ i && i < Int.ofNat (Nat.pow 2 128)

def infinities : List String :=
  [".inf", ".Inf", ".INF", "+.inf", "+.Inf", "+.INF", "-.inf", "-.Inf", "-.INF"]

def notNumbers : List String := [".nan", ".NaN", ".NAN"]

/-- A decimal. What is not finite has no value as JSON and becomes null. -/
def decimal? (s : String) : Option Json :=
  if infinities.contains s || notNumbers.contains s then some .null
  else (Number.finite? s.toList).map fun x => .number (.real x)

def isZeroPadded (cs : List Char) : Bool :=
  match cs with
  | '+' :: rest => hasLeadingZero rest
  | '-' :: rest => hasLeadingZero rest
  | _ => hasLeadingZero cs

/-- An integer as a value; too large a one is refused. -/
def integerValue? (s : String) : Option (Except ReadError Json) :=
  match (integer? s.toList).filter isWide with
  | none => none
  | some i => some (if Json.inIntegerRange i then .ok (Json.ofInt i) else .error .malformed)

/-- The value of a plain word. -/
def value (s : String) : Except ReadError Json :=
  if s.isEmpty || isNull s then .ok .null
  else
    match bool? s with
    | some b => .ok (.bool b)
    | none =>
      match integerValue? s with
      | some v => v
      | none =>
        if isZeroPadded s.toList then .ok (.string s) else .ok ((decimal? s).getD (.string s))

/-- The tags that name a type of scalar, all under one authority. -/
def coreTag (name : String) : String := "tag:yaml.org,2002:" ++ name

/-- The value of a word that a tag gives a type. -/
def taggedValue (tag s : String) : Except ReadError Json :=
  if tag = coreTag "bool" then
    match bool? s with
    | some b => .ok (.bool b)
    | none => .error .malformed
  else if tag = coreTag "int" then (integerValue? s).getD (.error .malformed)
  else if tag = coreTag "float" then
    match decimal? s with
    | some v => .ok v
    | none => .error .malformed
  else if tag = coreTag "null" then if isNull s then .ok .null else .error .malformed
  else if tag.startsWith "!" then .error .malformed
  else .ok (.string s)

end Word

namespace Scalar

/-- The scalar as a value of any type. -/
def json : Scalar → Except ReadError Json
  | .null => .ok .null
  | .bool b => .ok (.bool b)
  | .number n => .ok (.number n)
  | .text s => .ok (.string s)
  | .word _ (some tag) s => Word.taggedValue tag s
  | .word .plain none s => Word.value s
  | .word _ none s => .ok (.string s)
  | .unusable f => .error (.fault f)

/-- Where a type is wanted, a plain word may be of it, and so may a literal block
with the tag of that type. -/
def typedBy (tag : String) : Scalar → Option String
  | .word .plain _ s => some s
  | .word .literal (some t) s => if t = Word.coreTag tag then some s else none
  | _ => none

end Scalar

end Document
end ApiMapping
