import ApiMapping.Document.Basic
import ApiMapping.Yaml.Block
import ApiMapping.Yaml.Flowing

/-!
# Tokens of a YAML text

The tokens, and how those are read that are marked by their first character: anchors,
aliases, tags and directives.
-/

namespace ApiMapping
namespace Yaml

inductive Token where
  | version (major minor : Nat)
  | tagHandle (handle start : String)
  | documentStart
  | documentEnd
  | streamEnd
  | blockSequence
  | blockMapping
  | blockEnd
  | flowSequence
  | flowSequenceEnd
  | flowMapping
  | flowMappingEnd
  | entry
  | separator
  | key
  | value
  | alias (name : String)
  | anchor (name : String)
  | tag (handle suffix : String)
  | scalar (style : Document.Style) (text : String)
deriving DecidableEq, Repr

/-- Characters of a tag. In some places the flow indicators are among them. -/
def isTagChar (verbatim : Bool) (c : Char) : Bool :=
  isNameChar c || ";/?:@&=+$.!~*'()".toList.contains c || (verbatim && [',', '[', ']'].contains c)

/-- The number of bytes of a character, by the first of them. -/
def sequenceLength? (b : Nat) : Option Nat :=
  if b < 0x80 then some 1
  else if b < 0xC0 then none
  else if b < 0xE0 then some 2
  else if b < 0xF0 then some 3
  else if b < 0xF8 then some 4
  else none

/-- A byte written as a percent sign and two digits. -/
def escapedByte? (cs : List Char) : Option (Nat × List Char) :=
  match cs with
  | '%' :: a :: b :: rest => (Document.Word.naturalIn? 16 [a, b]).map fun n => (n, rest)
  | _ => none

/-- `count` more bytes of a character. -/
def continuation? : Nat → List Char → Option (List Nat × List Char)
  | 0, cs => some ([], cs)
  | count + 1, cs => do
    let (b, rest) ← escapedByte? cs
    if b / 64 ≠ 2 then none
    let (bs, rest) ← continuation? count rest
    return (b :: bs, rest)

/-- A character that is written byte by byte, and the number of places it takes. -/
def escapedChar? (cs : List Char) : Option (Char × Nat) := do
  let (first, rest) ← escapedByte? cs
  let length ← sequenceLength? first
  let (more, _) ← continuation? (length - 1) rest
  let bytes := (first :: more).map UInt8.ofNat
  let c := (String.fromUTF8? ⟨bytes.toArray⟩).bind fun s => s.toList.head?
  return (c.getD '\ufffd', 3 * length)

/-- The characters of a tag, in reverse, and the place behind them. -/
def tagChars? (verbatim : Bool) : Nat → List Char → Cursor → Option (List Char × Cursor)
  | 0, _, _ => none
  | fuel + 1, text, c =>
    match c.peek with
    | none => some (text, c)
    | some d =>
      if isTagChar verbatim d then tagChars? verbatim fuel (d :: text) (c.skip 1)
      else if d == '%' then
        match escapedChar? c.rest with
        | some (e, n) => tagChars? verbatim fuel (e :: text) (c.skip n)
        | none => none
      else some (text, c)

/-- The text of a tag behind `head`. Nothing is no tag; the first sign of the head is not
part of the text. -/
def tagText? (verbatim : Bool) (head : List Char) (c : Cursor) : Option (String × Cursor) := do
  let (text, next) ← tagChars? verbatim (c.rest.length + 1) [] c
  if head.isEmpty && text.isEmpty then none
  return (String.ofList (head.drop 1 ++ text.reverse), next)

/-- An exclamation mark with a name behind it, and one more mark if there is one. -/
def handle (c : Cursor) : List Char × Cursor :=
  let (name, next) := (c.skip 1).takeWhile isNameChar
  if next.peek = some '!' then ('!' :: name ++ ['!'], next.skip 1) else ('!' :: name, next)

/-- A handle between two marks. -/
def isNamedHandle (h : List Char) : Bool := h.length > 1 && h.getLast? == some '!'

/-- A tag: verbatim between angle brackets, with a handle, or local. A single mark is a
tag of its own. -/
def tag? (c : Cursor) : Option (Token × Cursor) :=
  if c.peekAt 1 = some '<' then do
    let (text, next) ← tagText? true [] (c.skip 2)
    if next.peek ≠ some '>' then none
    return (.tag "" text, next.skip 1)
  else
    let (h, next) := handle c
    if isNamedHandle h then do
      let (text, next) ← tagText? false [] next
      return (.tag (String.ofList h) text, next)
    else do
      let (text, next) ← tagText? false h next
      if text.isEmpty then return (.tag "" "!", next)
      return (.tag "!" text, next)

/-- What may stand behind a tag. -/
def endsTag (inFlow : Bool) (next : Option Char) : Bool :=
  endsWord next || (inFlow && next == some ',')

/-- The name of an anchor or an alias, behind its sign. -/
def anchorName? (c : Cursor) : Option (String × Cursor) :=
  let (name, next) := (c.skip 1).takeWhile isNameChar
  let ended := endsWord next.peek ||
    next.peek.any fun d => ['?', ':', ',', ']', '}', '%', '@', '`'].contains d
  if name.isEmpty || !ended then none else some (String.ofList name, next)

/-- A number of up to nine digits. -/
def versionNumber? (c : Cursor) : Option (Nat × Cursor) :=
  let (digits, next) := c.takeWhile Text.isDigit
  if digits.length > 9 then none else (Text.natural? digits).map fun n => (n, next)

def versionDirective? (c : Cursor) : Option (Token × Cursor) := do
  let (major, next) ← versionNumber? (c.skipWhile isBlank)
  if next.peek ≠ some '.' then none
  let (minor, next) ← versionNumber? (next.skip 1)
  return (.version major minor, next)

def tagDirective? (c : Cursor) : Option (Token × Cursor) := do
  let c := c.skipWhile isBlank
  if c.peek ≠ some '!' then none
  let (h, next) := handle c
  if h.length > 1 && h.getLast? ≠ some '!' then none
  if !next.peek.any isBlank then none
  let (start, next) ← tagText? true [] (next.skipWhile isBlank)
  if !endsWord next.peek then none
  return (.tagHandle (String.ofList h) start, next)

/-- A line that starts with a percent sign. -/
def directive? (c : Cursor) : Option (Token × Cursor) := do
  let (name, next) := (c.skip 1).takeWhile isNameChar
  if name.isEmpty || !endsWord next.peek then none
  let (token, next) ←
    if name = "YAML".toList then versionDirective? next
    else if name = "TAG".toList then tagDirective? next
    else none
  let next ← next.skipLineEnd?
  return (token, next)

end Yaml
end ApiMapping
