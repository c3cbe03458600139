import ApiMapping.Json.Basic
import ApiMapping.Text.Quoted

/-!
# Documents as they are read

The tree of a text before it is known what its parts are wanted for. A text is
read from left to right and the first defect decides, so the tree also holds the
place where reading stopped. Some defects only matter to who uses a value, and
some only to who skips it.
-/

namespace ApiMapping
namespace Document

/-- What is wrong with a text that is not of its format. -/
inductive Fault where
  | malformed
  | truncated
deriving DecidableEq, Repr

/-- Why a document cannot be read as what was wanted. -/
inductive ReadError where
  | fault (f : Fault)
  | wrongType (found expected : String)
  | wrongValue (found expected : String)
  | wrongLength (found : Nat) (record : String) (size : Nat)
  | missingField (name : String)
  | duplicateField (name : String)
  | unknownVariant (name : String) (variants : List String)
  | unsupportedMatch (value : Json)
deriving Repr

/-- How a scalar without a type of its own is written. -/
inductive Style where
  | plain
  | quoted
  | literal
deriving DecidableEq, Repr

inductive Scalar where
  | null
  | bool (b : Bool)
  | number (n : JsonNumber)
  | text (s : String)
  /-- Its type is found from its text by who reads it, unless a tag names it. -/
  | word (style : Style) (tag : Option String) (s : String)
  /-- Whole as a text, but without a value. -/
  | unusable (f : Fault)
deriving Repr

/-- The fault at which reading stopped, as it shows to who uses the value, to who
skips it, and to who wants the name of a variant. -/
structure Stop where
  used : Fault
  skipped : Fault
  named : Fault
deriving Repr

namespace Stop

def all (f : Fault) : Stop := ⟨f, f, f⟩

end Stop

/-- What stands where a sequence or a mapping has no more parts. -/
inductive Ending where
  | closed
  | stopped (f : Fault)
  /-- A key that is no text, described if it could be read. -/
  | oddKey (found : Except Fault String)

inductive Node where
  | scalar (s : Scalar)
  /-- `positional`: the format lets a record be written as the list of its fields. -/
  | sequence (positional : Bool) (items : List Node) (ending : Ending)
  | mapping (members : List (Node × Node)) (ending : Ending)
  /-- A sequence or mapping that carries the tag of a variant. -/
  | marked (tag : String) (node : Node)
  /-- A sequence or mapping nested too deeply to be used. -/
  | deep (node : Node)
  | stopped (stop : Stop)

namespace ReadError

def malformed : ReadError := .fault .malformed

def backquoted (s : String) : String := "`" ++ s ++ "`"

def message : ReadError → String
  | .fault .malformed => "malformed text"
  | .fault .truncated => "unexpected end of text"
  | .wrongType found expected => s!"invalid type: {found}, expected {expected}"
  | .wrongValue found expected => s!"invalid value: {found}, expected {expected}"
  | .wrongLength found record size =>
    let noun := if size = 1 then "element" else "elements"
    s!"invalid length {found}, expected struct {record} with {size} {noun}"
  | .missingField name => s!"missing field {backquoted name}"
  | .duplicateField name => s!"duplicate field {backquoted name}"
  | .unknownVariant name variants =>
    let known := String.intercalate " or " (variants.map backquoted)
    s!"unknown variant {backquoted name}, expected {known}"
  | .unsupportedMatch value => s!"unsupported match value: {value.text}"

end ReadError

namespace Scalar

/-- What a message calls the scalar. -/
def describe : Scalar → Except Fault String
  | .null => .ok "null"
  | .bool b => .ok s!"boolean {ReadError.backquoted (toString b)}"
  | .number (.integer i) => .ok s!"integer {ReadError.backquoted (String.ofList (Text.ofInt i))}"
  | .number (.real x) => .ok s!"floating point {ReadError.backquoted (String.ofList x.text)}"
  | .text s => .ok s!"string {Text.quoted s}"
  | .word _ _ s => .ok s!"string {Text.quoted s}"
  | .unusable f => .error f

end Scalar

namespace Ending

/-- Nothing is wrong where the parts end. -/
def check : Ending → Except ReadError Unit
  | .closed => .ok ()
  | .stopped f => .error (.fault f)
  | .oddKey _ => .error .malformed

end Ending

namespace Node

def describe : Node → Except Fault String
  | .scalar s => s.describe
  | .sequence .. => .ok "sequence"
  | .mapping .. => .ok "map"
  | .marked _ node => node.describe
  | .deep node => node.describe
  | .stopped stop => .error stop.used

/-- The error of finding this node where something else was expected. -/
def mismatch (node : Node) (expected : String) : ReadError :=
  match node.describe with
  | .ok found => .wrongType found expected
  | .error f => .fault f

mutual

/-- Pass over a node whose value is not wanted. -/
def skip : Node → Except ReadError Unit
  | .scalar _ => .ok ()
  | .sequence _ items ending => do
    skipItems items
    ending.check
  | .mapping members ending => do
    skipMembers members
    ending.check
  | .marked _ node => node.skip
  | .deep node => node.skip
  | .stopped stop => .error (.fault stop.skipped)

def skipItems : List Node → Except ReadError Unit
  | [] => .ok ()
  | item :: rest => do
    item.skip
    skipItems rest

def skipMembers : List (Node × Node) → Except ReadError Unit
  | [] => .ok ()
  | (key, value) :: rest => do
    key.skip
    value.skip
    skipMembers rest

end

/-- The members of a mapping and how it ends; an empty plain word is an empty mapping. -/
def membersOf (expected : String) : Node → Except ReadError (List (Node × Node) × Ending)
  | .mapping members ending => .ok (members, ending)
  | .scalar (.word .plain _ "") => .ok ([], .closed)
  | .marked _ node => node.membersOf expected
  | .deep (.mapping ..) => .error .malformed
  | node => .error (node.mismatch expected)

/-- The items of a sequence and how it ends; an empty plain word is an empty sequence. -/
def itemsOf (expected : String) : Node → Except ReadError (List Node × Ending)
  | .sequence _ items ending => .ok (items, ending)
  | .scalar (.word .plain _ "") => .ok ([], .closed)
  | .marked _ node => node.itemsOf expected
  | .deep (.sequence ..) => .error .malformed
  | node => .error (node.mismatch expected)

/-- The text of a key. A key is a text or nothing. -/
def keyText : Node → Except ReadError String
  | .scalar (.text s) => .ok s
  | .scalar (.word _ _ s) => .ok s
  | .stopped stop => .error (.fault stop.used)
  | _ => .error .malformed

end Node

end Document
end ApiMapping
