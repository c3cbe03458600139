/-!
# Places in a YAML text

The text from a place on, with the number of characters, lines and columns before it.
Five characters end a line; a carriage return and a line feed count as one end.
-/

namespace ApiMapping
namespace Yaml

/-- Characters that a YAML text may have at all. -/
def isAllowed (c : Char) : Bool :=
  let n := c.toNat
  n == 0x09 || n == 0x0A || n == 0x0D || (0x20 ≤ n && n ≤ 0x7E) || n == 0x85 ||
    (0xA0 ≤ n && n ≤ 0xD7FF) || (0xE000 ≤ n && n ≤ 0xFFFD) || 0x10000 ≤ n

def isBlank (c : Char) : Bool := c == ' ' || c == '\t'

def isBreak (c : Char) : Bool :=
  c == '\n' || c == '\r' || c == '\x85' || c == '\u2028' || c == '\u2029'

/-- Nothing, a blank or the end of a line follows. -/
def endsWord : Option Char → Bool
  | none => true
  | some c => isBlank c || isBreak c

/-- Nothing follows, or the end of a line. -/
def endsLine : Option Char → Bool
  | none => true
  | some c => isBreak c

/-- Characters of anchors and of the handles of tags. -/
def isNameChar (c : Char) : Bool := c.isAlphanum || c == '_' || c == '-'

structure Cursor where
  rest : List Char
  index : Nat
  line : Nat
  column : Nat

namespace Cursor

def ofText (cs : List Char) : Cursor := ⟨cs, 0, 0, 0⟩

def peek (c : Cursor) : Option Char := c.rest.head?

def peekAt (c : Cursor) (n : Nat) : Option Char := c.rest[n]?

/-- Behind the next `n` characters of the line. -/
def skip (c : Cursor) (n : Nat) : Cursor :=
  { c with rest := c.rest.drop n, index := c.index + n, column := c.column + n }

/-- The next characters of the line that have a property, and the place behind them. -/
def takeWhile (c : Cursor) (p : Char → Bool) : List Char × Cursor :=
  let taken := c.rest.takeWhile p
  (taken, c.skip taken.length)

def skipWhile (c : Cursor) (p : Char → Bool) : Cursor := (c.takeWhile p).2

/-- The end of a line as it counts in a text, and the start of the next line. -/
def takeBreak? (c : Cursor) : Option (Char × Cursor) :=
  let next (n : Nat) : Cursor := ⟨c.rest.drop n, c.index + n, c.line + 1, 0⟩
  match c.rest with
  | '\r' :: '\n' :: _ => some ('\n', next 2)
  | b :: _ =>
    if !isBreak b then none
    else if b == '\u2028' || b == '\u2029' then some (b, next 1)
    else some ('\n', next 1)
  | [] => none

/-- Three hyphens or dots alone at the start of a line. -/
def atMark (c : Cursor) (mark : Char) : Bool :=
  c.column == 0 && c.rest.take 3 == [mark, mark, mark] && endsWord (c.peekAt 3)

/-- A document starts or ends here. -/
def atDocumentMark (c : Cursor) : Bool := c.atMark '-' || c.atMark '.'

/-- Behind the blanks and the comment that may end a line. -/
def skipLineEnd? (c : Cursor) : Option Cursor :=
  let c := c.skipWhile isBlank
  let c := if c.peek = some '#' then c.skipWhile fun d => !isBreak d else c
  if endsLine c.peek then some ((c.takeBreak?.map Prod.snd).getD c) else none

end Cursor
end Yaml
end ApiMapping
