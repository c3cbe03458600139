import ApiMapping.Document.Word

/-!
# Values and documents

Each reader takes a node as one type and refuses every other, naming what it found and what it
expected. Every JSON value has a document of its own.
-/

namespace ApiMapping
namespace Document

/-! ## Reading values out of a document

Each reader takes a node as one type and refuses every other, naming what it found
and what it expected.
-/

namespace Node

/-- A text. A word counts as its own text whatever type it might have. -/
def text : Node → Except ReadError String
  | .scalar (.text s) => .ok s
  | .scalar (.word _ _ s) => .ok s
  | node => .error (node.mismatch "a string")

def bool : Node → Except ReadError Bool
  | .scalar (.bool b) => .ok b
  | .scalar s =>
    match s.typedBy "bool" >>= Word.bool? with
    | some b => .ok b
    | none => .error ((Node.scalar s).mismatch "a boolean")
  | node => .error (node.mismatch "a boolean")

/-- The integer that a scalar stands for where an integer is wanted. -/
def integer? : Node → Option Int
  | .scalar (.number (.integer i)) => some i
  | .scalar s => s.typedBy "int" >>= fun w => (Word.natural? w.toList).map Int.ofNat
  | _ => none

/-- A whole number below `limit`; `expected` is what a message calls such numbers. -/
def natural (limit : Nat) (expected : String) (node : Node) : Except ReadError Nat :=
  match node.integer? with
  | some i =>
    if 0 ≤ i ∧ i < limit then .ok i.toNat
    else
      .error (.wrongValue s!"integer {ReadError.backquoted (String.ofList (Text.ofInt i))}" expected)
  | none => .error (node.mismatch expected)

/-- Nothing, or what `read` takes the node as. -/
def optional (read : Node → Except ReadError α) (node : Node) : Except ReadError (Option α) :=
  match node with
  | .scalar .null => .ok none
  | .scalar (.word .plain none s) =>
    if s.isEmpty || Word.isNull s then .ok none else some <$> read node
  | .scalar (.word .plain (some tag) s) =>
    if tag = Word.coreTag "null" then
      if Word.isNull s then .ok none else .error (node.mismatch "null")
    else some <$> read node
  | _ => some <$> read node

/-- The items of a sequence, each read in its turn. -/
def list (expected : String) (read : Node → Except ReadError α) (node : Node) :
    Except ReadError (List α) := do
  let (items, ending) ← node.itemsOf expected
  let values ← items.mapM read
  ending.check
  return values

/-- The members of a mapping in order, repeated names included. -/
def entries (expected : String) (read : Node → Except ReadError α) (node : Node) :
    Except ReadError (List (String × α)) := do
  let (members, ending) ← node.membersOf expected
  let values ← members.mapM fun (key, value) => do
    let name ← key.keyText
    let v ← read value
    return (name, v)
  ending.check
  return values

/-- One value to each name: the first place and the last value of a repeated name. -/
def collapse (entries : List (String × α)) : List (String × α) :=
  entries.foldl (fun table (name, value) => Keyed.put name value table) []

mutual

/-- The node as a value of any type. -/
def json : Node → Except ReadError Json
  | .scalar s => s.json
  | .sequence _ items ending => do
    let values ← jsonItems items
    ending.check
    return .array values
  | .mapping members ending => do
    let values ← jsonMembers members
    ending.check
    return .object (collapse values)
  | .marked _ _ => .error .malformed
  | .deep _ => .error .malformed
  | .stopped stop => .error (.fault stop.used)

def jsonItems : List Node → Except ReadError (List Json)
  | [] => .ok []
  | item :: rest => do
    let v ← item.json
    let vs ← jsonItems rest
    return v :: vs

def jsonMembers : List (Node × Node) → Except ReadError (List (String × Json))
  | [] => .ok []
  | (key, value) :: rest => do
    let name ← key.keyText
    let v ← value.json
    let vs ← jsonMembers rest
    return (name, v) :: vs

end

/-- The name of a variant, as the only key of a mapping. -/
def variantKey : Node → Except ReadError String
  | .scalar (.text s) => .ok s
  | .stopped stop => .error (.fault stop.used)
  | _ => .error .malformed

/-- One of a few named variants. It is written as its name, as a mapping of its
name to nothing, or as a tag on nothing. -/
def variant (variants : List (String × α)) (node : Node) : Except ReadError α :=
  let named (name : String) : Except ReadError α :=
    match variants.lookup name with
    | some a => .ok a
    | none => .error (.unknownVariant name (variants.map Prod.fst))
  match node with
  | .scalar (.text s) => named s
  | .scalar (.word style tag s) =>
    match tag with
    | some t =>
      if t.startsWith "!" then
        if style = .plain ∧ (s.isEmpty ∨ Word.isNull s) then named (t.drop 1).toString
        else .error .malformed
      else named s
    | none => named s
  | .mapping ((key, value) :: rest) ending => do
    let a ← variantKey key >>= named
    match value with
    | .scalar .null =>
      match rest with
      | _ :: _ => .error .malformed
      | [] => ending.check
    | _ => .error (value.mismatch "unit")
    return a
  | .mapping [] (.oddKey (.ok found)) => .error (.wrongType found "variant identifier")
  | .mapping [] (.oddKey (.error f)) => .error (.fault f)
  | .mapping [] (.stopped f) => .error (.fault f)
  | .stopped stop => .error (.fault stop.named)
  | _ => .error .malformed

end Node

/-! ## JSON values as documents

The document of the text of a JSON value. Members of one name stay apart in it, and
become one when it is read as a value.
-/

mutual

def ofJson : Json → Node
  | .null => .scalar .null
  | .bool b => .scalar (.bool b)
  | .number n => .scalar (.number n)
  | .string s => .scalar (.text s)
  | .array items => .sequence true (ofItems items) .closed
  | .object members => .mapping (ofMembers members) .closed

def ofItems : List Json → List Node
  | [] => []
  | item :: rest => ofJson item :: ofItems rest

def ofMembers : List (String × Json) → List (Node × Node)
  | [] => []
  | (name, value) :: rest => (.scalar (.text name), ofJson value) :: ofMembers rest

end

end Document
end ApiMapping
