import ApiMapping.Document.Word
import ApiMapping.Yaml.Tokens

/-!
# From tokens to the tree of a YAML document

Collections in block and in flow context, and what may be left out of them: a key or a
value that is not written is an empty plain scalar. Anchors get numbers as they come up.
A text has at most one document.
-/

namespace ApiMapping
namespace Yaml

/-- A document before its aliases are replaced. -/
inductive Tree where
  | alias (id : Nat)
  | scalar (anchor : Option Nat) (tag : Option String) (style : Document.Style) (text : String)
  | sequence (anchor : Option Nat) (tag : Option String) (items : List Tree)
  | mapping (anchor : Option Nat) (tag : Option String) (members : List (Tree × Tree))

namespace Tree

/-- What stands for a node that is not written. -/
def missing : Tree := .scalar none none .plain ""

end Tree

/-- The tokens that are left, the numbers of the anchors, and what the handles of tags
stand for. -/
structure TreeState where
  tokens : List Token
  anchors : List (String × Nat)
  handles : List (String × String)

abbrev TreeReader := StateT TreeState Option

namespace TreeReader

def fail : TreeReader α := fun _ => none

def peek : TreeReader (Option Token) := fun s => some (s.tokens.head?, s)

def drop : TreeReader Unit := fun s => some ((), { s with tokens := s.tokens.drop 1 })

/-- Take the next token if it is `t`. -/
def take? (t : Token) : TreeReader Bool := do
  if (← peek) = some t then
    drop
    return true
  return false

def expect (t : Token) : TreeReader Unit := do
  if !(← take? t) then fail

/-- One of these tokens is next. -/
def sees (ts : List Token) : TreeReader Bool := do
  return (← peek).any ts.contains

/-- Give an anchor a number, the count of the names so far. A name that comes up again
is counted only once, so its new number may come up again too. -/
def number (name : Option String) : TreeReader (Option Nat) := fun s =>
  match name with
  | none => some (none, s)
  | some n =>
    let id := s.anchors.length
    some (some id, { s with anchors := Keyed.put n id s.anchors })

def aliasOf (name : String) : TreeReader Tree := fun s =>
  (s.anchors.lookup name).map fun id => (.alias id, s)

/-- The tag that a handle and a suffix name. -/
def tagOf (handle suffix : String) : TreeReader String := fun s =>
  if handle.isEmpty then some (suffix, s)
  else (s.handles.lookup handle).map fun start => (start ++ suffix, s)

/-- An anchor and a tag, in either order. -/
def properties : TreeReader (Option String × Option String) := do
  match ← peek with
  | some (.anchor name) =>
    drop
    match ← peek with
    | some (.tag handle suffix) =>
      drop
      return (some name, some (← tagOf handle suffix))
    | _ => return (some name, none)
  | some (.tag handle suffix) =>
    drop
    match ← peek with
    | some (.anchor name) =>
      drop
      return (some name, some (← tagOf handle suffix))
    | _ => return (none, some (← tagOf handle suffix))
  | _ => return (none, none)

mutual

/-- A node. Block collections are nodes only in block context, and a sequence may stand
at the column of the key before it. -/
def node (fuel : Nat) (block indentless : Bool) : TreeReader Tree :=
  match fuel with
  | 0 => fail
  | fuel + 1 => do
    if let some (.alias name) ← peek then
      drop
      return ← aliasOf name
    let (name, tag) ← properties
    match ← peek with
    | some .entry =>
      if indentless then
        return .sequence (← number name) tag (← indentlessItems fuel)
      else absent name tag
    | some (.scalar style text) =>
      drop
      return .scalar (← number name) (tag.filter (· ≠ "!")) style text
    | some .flowSequence =>
      drop
      return .sequence (← number name) tag (← flowItems fuel true)
    | some .flowMapping =>
      drop
      return .mapping (← number name) tag (← flowMembers fuel true)
    | some .blockSequence =>
      if block then
        drop
        return .sequence (← number name) tag (← blockItems fuel)
      else absent name tag
    | some .blockMapping =>
      if block then
        drop
        return .mapping (← number name) tag (← blockMembers fuel)
      else absent name tag
    | _ => absent name tag

/-- A node of which only an anchor or a tag is written. -/
def absent (name tag : Option String) : TreeReader Tree := do
  if name.isNone && tag.isNone then fail
  else return .scalar (← number name) tag .plain ""

/-- A node, or what stands for it if one of these tokens is next. -/
def nodeUnless (fuel : Nat) (ends : List Token) (block indentless : Bool) : TreeReader Tree := do
  if ← sees ends then return .missing else node fuel block indentless

def blockItems (fuel : Nat) : TreeReader (List Tree) :=
  match fuel with
  | 0 => fail
  | fuel + 1 => do
    if ← take? .blockEnd then return []
    expect .entry
    let item ← nodeUnless fuel [.entry, .blockEnd] true false
    return item :: (← blockItems fuel)

def indentlessItems (fuel : Nat) : TreeReader (List Tree) :=
  match fuel with
  | 0 => fail
  | fuel + 1 => do
    if !(← take? .entry) then return []
    let item ← nodeUnless fuel [.entry, .key, .value, .blockEnd] true false
    return item :: (← indentlessItems fuel)

def blockMembers (fuel : Nat) : TreeReader (List (Tree × Tree)) :=
  match fuel with
  | 0 => fail
  | fuel + 1 => do
    if ← take? .blockEnd then return []
    expect .key
    let key ← nodeUnless fuel [.key, .value, .blockEnd] true true
    let value ←
      if ← take? .value then nodeUnless fuel [.key, .value, .blockEnd] true true
      else pure .missing
    return (key, value) :: (← blockMembers fuel)

/-- Items in brackets; an item may be a mapping of one member without braces. -/
def flowItems (fuel : Nat) (first : Bool) : TreeReader (List Tree) :=
  match fuel with
  | 0 => fail
  | fuel + 1 => do
    if ← take? .flowSequenceEnd then return []
    if !first then expect .separator
    if ← take? .key then
      let member ← flowPair fuel
      return .mapping none none [member] :: (← flowItems fuel false)
    if ← take? .flowSequenceEnd then return []
    let item ← node fuel false false
    return item :: (← flowItems fuel false)

/-- The member of a mapping without braces. If it has no key, the token behind the sign
of the key is passed over. -/
def flowPair (fuel : Nat) : TreeReader (Tree × Tree) :=
  match fuel with
  | 0 => fail
  | fuel + 1 => do
    let key ←
      if ← sees [.value, .separator, .flowSequenceEnd] then do
        drop
        pure .missing
      else node fuel false false
    let value ←
      if ← take? .value then nodeUnless fuel [.separator, .flowSequenceEnd] false false
      else pure .missing
    return (key, value)

/-- Members in braces; a key alone has no value. -/
def flowMembers (fuel : Nat) (first : Bool) : TreeReader (List (Tree × Tree)) :=
  match fuel with
  | 0 => fail
  | fuel + 1 => do
    if ← take? .flowMappingEnd then return []
    if !first then expect .separator
    if ← take? .key then
      let key ← nodeUnless fuel [.value, .separator, .flowMappingEnd] false false
      let value ←
        if ← take? .value then nodeUnless fuel [.separator, .flowMappingEnd] false false
        else pure .missing
      return (key, value) :: (← flowMembers fuel false)
    if ← take? .flowMappingEnd then return []
    let key ← node fuel false false
    return (key, .missing) :: (← flowMembers fuel false)

end

/-- The handles that every document knows, unless it gives them another meaning. -/
def defaultHandles : List (String × String) := [("!", "!"), ("!!", "tag:yaml.org,2002:")]

/-- Read directives. There may be one version, and one meaning to each handle. -/
def directives : Nat → Bool → List (String × String) → TreeReader Unit
  | 0, _, _ => fail
  | fuel + 1, versioned, handles => do
    match ← peek with
    | some (.version major minor) =>
      if versioned || major ≠ 1 || (minor ≠ 1 && minor ≠ 2) then fail
      drop
      directives fuel true handles
    | some (.tagHandle handle start) =>
      if (handles.lookup handle).isSome then fail
      drop
      directives fuel versioned ((handle, start) :: handles)
    | _ => modify fun s => { s with handles := handles ++ defaultHandles }

def isDocumentToken : Token → Bool
  | .version .. => true
  | .tagHandle .. => true
  | .documentStart => true
  | .documentEnd => true
  | .streamEnd => true
  | _ => false

/-- A document may start without a mark only if it has no directives. -/
def startsExplicitly : Token → Bool
  | .version .. => true
  | .tagHandle .. => true
  | .documentStart => true
  | _ => false

/-- The one document of a text, if it has one. -/
def document (fuel : Nat) : TreeReader (Option Tree) := do
  match ← peek with
  | none => fail
  | some .streamEnd => return none
  | some t =>
    let tree ←
      if startsExplicitly t then do
        directives fuel false []
        expect .documentStart
        if (← peek).all isDocumentToken then pure .missing else node fuel true false
      else do
        directives fuel false []
        node fuel true false
    modify fun s => { s with tokens := s.tokens.dropWhile (· == .documentEnd) }
    expect .streamEnd
    return some tree

end TreeReader

/-- The tree of a text's document. The outer `none` means that the text is not YAML, the
inner one that it has no document. -/
def tree? (s : String) : Option (Option Tree) := do
  let ts ← tokens? s
  let (tree, _) ← (TreeReader.document (4 * ts.length + 4)).run ⟨ts, [], []⟩
  return tree

end Yaml
end ApiMapping
