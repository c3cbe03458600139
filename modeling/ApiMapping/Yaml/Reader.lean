import ApiMapping.Document.Values
import ApiMapping.Yaml.Tree

/-!
# Reading YAML text

Aliases are replaced by the nodes that they name, and the tree becomes a document. To
keep small texts from standing for huge documents there is a limit to the number of
replacements, and to the depth at which collections may be used.
-/

namespace ApiMapping
namespace Yaml

open Document

/-- The number of parts of a tree; a collection has a start and an end. -/
def Tree.size : Tree → Nat
  | .alias _ => 1
  | .scalar .. => 1
  | .sequence _ _ items => 2 + sizeItems items
  | .mapping _ _ members => 2 + sizeMembers members
where
  sizeItems : List Tree → Nat
    | [] => 0
    | item :: rest => item.size + sizeItems rest
  sizeMembers : List (Tree × Tree) → Nat
    | [] => 0
    | (key, value) :: rest => key.size + value.size + sizeMembers rest

/-- The nodes with anchors in the order of the text. -/
def Tree.anchored (t : Tree) : List (Nat × Tree) :=
  match t with
  | .alias _ => []
  | .scalar anchor .. => (anchor.map fun id => (id, t)).toList
  | .sequence anchor _ items => (anchor.map fun id => (id, t)).toList ++ anchoredItems items
  | .mapping anchor _ members => (anchor.map fun id => (id, t)).toList ++ anchoredMembers members
where
  anchoredItems : List Tree → List (Nat × Tree)
    | [] => []
    | item :: rest => item.anchored ++ anchoredItems rest
  anchoredMembers : List (Tree × Tree) → List (Nat × Tree)
    | [] => []
    | (key, value) :: rest => key.anchored ++ value.anchored ++ anchoredMembers rest

/-- The nodes by their numbers, and the replacements that are left. -/
structure AliasState where
  nodes : List (Nat × Tree)
  left : Nat

abbrev Replacing := StateM AliasState

/-- A collection of which the tag names a variant keeps the tag. -/
def withMark (tag : Option String) (n : Node) : Node :=
  match tag with
  | some t => if t.startsWith "!" then .marked t n else n
  | none => n

/-- The node of a tree that is no alias; `inner` is for its parts. -/
def nodeWith (inner : Tree → Replacing Node) (t : Tree) : Replacing Node :=
  match t with
  | .alias _ => return .scalar (.unusable .malformed)
  | .scalar _ tag style text => return .scalar (.word style tag text)
  | .sequence _ tag items => do
    let nodes ← items.mapM inner
    return withMark tag (.sequence false nodes .closed)
  | .mapping _ tag members => do
    let nodes ← members.mapM fun (key, value) => do
      let k ← inner key
      let v ← inner value
      return (k, v)
    return withMark tag (.mapping nodes .closed)

/-- A collection where no more may be used. -/
def tooDeep (t : Tree) : Node :=
  match t with
  | .alias _ => .scalar (.unusable .malformed)
  | .scalar _ tag style text => .scalar (.word style tag text)
  | .sequence .. => .deep (.sequence false [] .closed)
  | .mapping .. => .deep (.mapping [] .closed)

/-- The tree that an alias stands for, if one more replacement is allowed. -/
def replace (t : Tree) : Replacing Tree := fun s =>
  match t with
  | .alias id =>
    if s.left = 0 then (t, s) else ((s.nodes.lookup id).getD t, { s with left := s.left - 1 })
  | _ => (t, s)

/-- The node of a tree with `room` more levels of collections. -/
def toNode : Nat → Tree → Replacing Node
  | 0, t => tooDeep <$> replace t
  | room + 1, t => do
    let t ← replace t
    nodeWith (toNode room) t

/-- The levels of collections that may be used. -/
def usableDepth : Nat := 128

/-- The document of a tree. Of two nodes with one number the later counts. -/
def Tree.document (t : Tree) : Node :=
  ((toNode usableDepth t).run ⟨t.anchored.reverse, 100 * t.size⟩).1

/-- Read a whole text as what `read` takes its document as. A text without a document is
an empty one. -/
def decode (read : Node → Except ReadError α) (s : String) : Except ReadError α :=
  match tree? s with
  | none => .error .malformed
  | some none => read (.scalar (.word .plain none ""))
  | some (some t) => read t.document

end Yaml
end ApiMapping
