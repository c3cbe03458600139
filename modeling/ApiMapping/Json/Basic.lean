import ApiMapping.Keyed
import ApiMapping.Number.Notation

/-!
# JSON values and their text

Objects keep their members in order. Whole numbers are kept as integers and are
different from the floating point numbers of the same value.
-/

namespace ApiMapping

inductive JsonNumber where
  | integer (i : Int)
  | real (x : Number.Binary64)
deriving DecidableEq, Repr

namespace JsonNumber

/-- The floating point number nearest to the value. -/
def toBinary64? : JsonNumber → Option Number.Binary64
  | .integer i => Number.Binary64.ofInt? i
  | .real x => some x

end JsonNumber

inductive Json where
  | null
  | bool (b : Bool)
  | number (n : JsonNumber)
  | string (s : String)
  | array (items : List Json)
  | object (members : List (String × Json))
deriving Repr, Inhabited

namespace Json

def ofNat (n : Nat) : Json := .number (.integer n)

def ofInt (i : Int) : Json := .number (.integer i)

/-- A whole number is an integer in this range, and a floating point number beyond it. -/
def inIntegerRange (i : Int) : Bool := -Int.ofNat (Nat.pow 2 63) ≤ i && i < Int.ofNat UInt64.size

/-- The value of the first member of that name. -/
def member? (name : String) : Json → Option Json
  | .object members => members.lookup name
  | _ => none

def item? (i : Nat) : Json → Option Json
  | .array items => items[i]?
  | _ => none

def isNull : Json → Bool
  | .null => true
  | _ => false

@[simp] theorem member?_object (name : String) (members : List (String × Json)) :
    (Json.object members).member? name = members.lookup name := rfl

@[simp] theorem item?_array (i : Nat) (items : List Json) :
    (Json.array items).item? i = items[i]? := rfl

end Json

/-! ## Compact text

No blanks, members in their order. A string escapes the quote, the backslash and
the characters below the space, and nothing else.
-/

namespace Json

/-- A hexadecimal digit, in lower case. -/
def hexDigit (n : Nat) : Char := Nat.digitChar (n % 16)

def escape (c : Char) : List Char :=
  if c = '"' then ['\\', '"']
  else if c = '\\' then ['\\', '\\']
  else if c = '\x08' then ['\\', 'b']
  else if c = '\x0c' then ['\\', 'f']
  else if c = '\n' then ['\\', 'n']
  else if c = '\r' then ['\\', 'r']
  else if c = '\t' then ['\\', 't']
  else if c.toNat < 0x20 then
    ['\\', 'u', '0', '0', hexDigit (c.toNat / 16), hexDigit c.toNat]
  else [c]

def stringChars (s : String) : List Char := '"' :: s.toList.flatMap escape ++ ['"']

def numberChars : JsonNumber → List Char
  | .integer i => Text.ofInt i
  | .real x => x.text

mutual

def chars : Json → List Char
  | .null => ['n', 'u', 'l', 'l']
  | .bool true => ['t', 'r', 'u', 'e']
  | .bool false => ['f', 'a', 'l', 's', 'e']
  | .number n => numberChars n
  | .string s => stringChars s
  | .array items => '[' :: itemChars items ++ [']']
  | .object members => '{' :: memberChars members ++ ['}']

def itemChars : List Json → List Char
  | [] => []
  | [item] => item.chars
  | item :: rest => item.chars ++ ',' :: itemChars rest

def memberChars : List (String × Json) → List Char
  | [] => []
  | [(name, value)] => stringChars name ++ ':' :: value.chars
  | (name, value) :: rest => stringChars name ++ ':' :: value.chars ++ ',' :: memberChars rest

end

def text (v : Json) : String := String.ofList v.chars

/-- A string as it is, every other value as its JSON text. -/
def plainText : Json → String
  | .string s => s
  | v => v.text

@[simp] theorem plainText_string (s : String) : (Json.string s).plainText = s := rfl

end Json

end ApiMapping
