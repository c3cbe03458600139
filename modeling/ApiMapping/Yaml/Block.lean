import ApiMapping.Text.Digits
import ApiMapping.Yaml.Cursor

/-!
# Block scalars

The lines below a bar or an angle bracket, as far as they are indented. A literal
block keeps its line ends, a folded one joins lines that are not indented further.
-/

namespace ApiMapping
namespace Yaml

/-- Which line ends at the end of a block belong to it. -/
inductive Chomping where
  | strip
  | clip
  | keep
deriving DecidableEq

def chomping? : Char → Option Chomping
  | '-' => some .strip
  | '+' => some .keep
  | _ => none

/-- What may stand behind the sign of a block, in either order. -/
structure BlockHeader where
  chomping : Chomping
  indent : Option Nat
  cursor : Cursor

/-- A zero is no indentation. -/
def blockHeader? (c : Cursor) : Option BlockHeader :=
  match c.peek >>= chomping? with
  | some chomping =>
    let c := c.skip 1
    match c.peek >>= Text.digit? with
    | some 0 => none
    | some n => some ⟨chomping, some n, c.skip 1⟩
    | none => some ⟨chomping, none, c⟩
  | none =>
    match c.peek >>= Text.digit? with
    | some 0 => none
    | some n =>
      let c := c.skip 1
      match c.peek >>= chomping? with
      | some chomping => some ⟨chomping, some n, c.skip 1⟩
      | none => some ⟨.clip, some n, c⟩
    | none => some ⟨.clip, none, c⟩

/-- Empty lines before the next line of the block, in reverse. -/
structure BlockBreaks where
  indent : Nat
  breaks : List Char
  cursor : Cursor

/-- Pass empty lines and the indentation of the next line. If the indentation is not
known yet it is the greatest one that was seen, but at least `least`. -/
def blockBreaks? (least : Nat) : Nat → Option Nat → Nat → List Char → Cursor → Option BlockBreaks
  | 0, _, _, _, _ => none
  | fuel + 1, indent, greatest, breaks, c =>
    let room := (indent.map fun n => n - c.column).getD c.rest.length
    let c := c.skip ((c.rest.take room).takeWhile (· == ' ')).length
    let greatest := max greatest c.column
    let inIndent := indent.all fun n => c.column < n
    if inIndent && c.peek == some '\t' then none
    else
      match c.takeBreak? with
      | some (b, next) => blockBreaks? least fuel indent greatest (b :: breaks) next
      | none => some ⟨indent.getD (max greatest (max least 1)), breaks, c⟩

/-- A block as far as it was read: its text, the line end behind it, further line ends,
and whether its last line started with a blank. Texts are in reverse. -/
structure BlockState where
  text : List Char
  lastBreak : Option Char
  breaks : List Char
  indented : Bool
  cursor : Cursor

/-- The text in front of the next line. -/
def joinLine (literal : Bool) (s : BlockState) : List Char :=
  let nextIndented := s.cursor.peek.any isBlank
  let folds := !literal && s.lastBreak == some '\n' && !s.indented && !nextIndented
  let joined :=
    if folds then if s.breaks.isEmpty then ' ' :: s.text else s.text
    else s.lastBreak.toList ++ s.text
  s.breaks ++ joined

def blockLines? (literal : Bool) (indent : Nat) : Nat → BlockState → Option BlockState
  | 0, _ => none
  | fuel + 1, s =>
    if s.cursor.column == indent && s.cursor.peek.isSome then
      let joined := joinLine literal s
      let (line, c) := s.cursor.takeWhile fun d => !isBreak d
      let (lastBreak, next) := match c.takeBreak? with
        | some (b, next) => (some b, next)
        | none => (none, c)
      match blockBreaks? 0 (next.rest.length + 1) (some indent) 0 [] next with
      | none => none
      | some b =>
        blockLines? literal indent fuel
          ⟨line.reverse ++ joined, lastBreak, b.breaks, s.cursor.peek.any isBlank, b.cursor⟩
    else some s

/-- A block scalar from its sign on. `parent` is the column of the collection that it is
in, if it is in one. -/
def blockScalar? (literal : Bool) (parent : Option Nat) (c : Cursor) :
    Option (List Char × Cursor) := do
  let header ← blockHeader? (c.skip 1)
  let start ← header.cursor.skipLineEnd?
  let indent := header.indent.map fun n => parent.getD 0 + n
  let least := (parent.map (· + 1)).getD 0
  let first ← blockBreaks? least (start.rest.length + 1) indent 0 [] start
  let s ← blockLines? literal first.indent (c.rest.length + 1)
    ⟨[], none, first.breaks, false, first.cursor⟩
  let tail := match header.chomping with
    | .strip => []
    | .clip => s.lastBreak.toList
    | .keep => s.breaks ++ s.lastBreak.toList
  return ((tail ++ s.text).reverse, s.cursor)

end Yaml
end ApiMapping
