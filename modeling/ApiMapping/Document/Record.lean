import ApiMapping.Document.Values

/-!
# Reading records

A record is a mapping of known fields. Fields may be in any order and other keys
are passed over, but a field may not come twice and a required one not be missing.
Where the format allows it a record is also the list of its fields in order.
-/

namespace ApiMapping
namespace Document

/-- A field and how its value changes the record that is being read. -/
structure Field (α : Type) where
  name : String
  required : Bool
  read : Node → α → Except ReadError α

/-- The fields of a record, and what it is before any of them was read. -/
structure Record (α : Type) where
  label : String
  blank : α
  fields : List (Field α)

namespace Field

/-- A field without a value to fall back on. -/
def needed (name : String) (read : Node → Except ReadError β) (set : β → α → α) : Field α :=
  ⟨name, true, fun node a => do return set (← read node) a⟩

/-- A field that keeps the value of the blank record if it is not there. -/
def defaulted (name : String) (read : Node → Except ReadError β) (set : β → α → α) :
    Field α :=
  ⟨name, false, fun node a => do return set (← read node) a⟩

end Field

namespace Record

def expected (r : Record α) : String := s!"struct {r.label}"

def field? (r : Record α) (name : String) : Option (Field α) :=
  r.fields.find? fun f => f.name == name

/-- Read the members in order; `seen` has the fields that were read already. -/
def readMembers (r : Record α) (seen : List String) (a : α) :
    List (Node × Node) → Except ReadError (List String × α)
  | [] => .ok (seen, a)
  | (key, value) :: rest => do
    let name ← key.keyText
    match r.field? name with
    | none =>
      value.skip
      r.readMembers seen a rest
    | some f =>
      if seen.contains name then throw (.duplicateField name)
      let next ← f.read value a
      r.readMembers (name :: seen) next rest

/-- The first required field that was not read. -/
def missing? (r : Record α) (seen : List String) : Option (Field α) :=
  r.fields.find? fun f => f.required && !seen.contains f.name

/-- Read the items as the fields in order; `i` items were read already. -/
def readItems (r : Record α) (ending : Ending) :
    Nat → List (Field α) → List Node → α → Except ReadError α
  | _, [], [], a => do
    ending.check
    return a
  | _, [], _ :: _, _ => .error .malformed
  | i, f :: fields, [], a => do
    ending.check
    if f.required then throw (.wrongLength i r.label r.fields.length)
    r.readItems ending (i + 1) fields [] a
  | i, f :: fields, item :: items, a => do
    let next ← f.read item a
    r.readItems ending (i + 1) fields items next

def read (r : Record α) (node : Node) : Except ReadError α :=
  match node with
  | .sequence true items ending => r.readItems ending 0 r.fields items r.blank
  | .deep (.sequence true _ _) => .error .malformed
  | node => do
    let (members, ending) ← node.membersOf r.expected
    let (seen, a) ← r.readMembers [] r.blank members
    ending.check
    match r.missing? seen with
    | some f => throw (.missingField f.name)
    | none => return a

end Record
end Document
end ApiMapping
