import ApiMapping.Json.Basic
import ApiMapping.Text.Basic
import ApiMapping.Text.Digits

/-!
# Locators of values in a JSON document

A locator is a list of steps parted by dots: `data.user.name`. A step is the key of a
member or, on an array, a number; `[3]` is a number whatever comes before it, and a
last step `#` is the length of an array. A backslash takes the next character as part
of a key. A `$` in front stands for the document itself.
-/

namespace ApiMapping
namespace Template

inductive Segment where
  | key (k : String)
  | index (i : Nat)
  | count
deriving DecidableEq, Repr

namespace Locator

/-- The step that the characters read so far make up; they are in reverse. -/
def flush (current : List Char) : List Segment :=
  match current with
  | [] => []
  | ['#'] => [.count]
  | _ => [.key (String.ofList current.reverse)]

/-- A number below `2 ^ 64`. -/
def index? (cs : List Char) : Option Nat := Text.unsigned? UInt64.size cs

/-- The step between brackets; the characters are in reverse. What is no number is a key. -/
def bracketed (inner : List Char) : Segment :=
  match index? (Text.trim inner.reverse) with
  | some i => .index i
  | none => .key (String.ofList inner.reverse)

mutual

/-- The steps of a locator; `current` has the start of the next one in reverse. -/
def scan (current : List Char) : List Char → List Segment
  | [] => flush current
  | '\\' :: c :: rest => scan (c :: current) rest
  | ['\\'] => flush current
  | '.' :: rest => flush current ++ scan [] rest
  | '[' :: rest => flush current ++ scanBracket [] rest
  | c :: rest => scan (c :: current) rest

/-- The same behind an opening bracket. A bracket that is not closed ends with the text. -/
def scanBracket (inner : List Char) : List Char → List Segment
  | [] => [bracketed inner]
  | ']' :: rest => bracketed inner :: scan [] rest
  | c :: rest => scanBracket (c :: inner) rest

end

/-- The locator without blanks around it and without the sign of the root. -/
def body (cs : List Char) : List Char :=
  let path := Text.trim cs
  let path := (Text.afterStart? ['$', '.'] path).getD path
  (Text.afterStart? ['$'] path).getD path

def segments (locator : String) : List Segment := scan [] (body locator.toList)

end Locator

namespace Segment

/-- One step down from a value. The length of an array is no step. -/
def step? : Segment → Json → Option Json
  | .key k, .object members => members.lookup k
  | .key k, .array items => Locator.index? k.toList >>= fun i => items[i]?
  | .index i, .array items => items[i]?
  | _, _ => none

end Segment

/-- The value at the end of the steps. -/
def follow : List Segment → Json → Option Json
  | [], v => some v
  | [.count], .array items => some (Json.ofNat items.length)
  | s :: rest, v => s.step? v >>= follow rest

/-- The value that a locator selects from a document. -/
def select (document : Json) (locator : String) : Option Json :=
  follow (Locator.segments locator) document

@[simp] theorem follow_nil (v : Json) : follow [] v = some v := rfl

end Template
end ApiMapping
