import ApiMapping.Document.Word
import ApiMapping.Yaml.Cursor

/-!
# Plain and quoted scalars

A scalar may go over several lines. What stands between two of its words is folded: a
single line end becomes a space, and of several the first is dropped.
-/

namespace ApiMapping
namespace Yaml

/-- Blanks and line ends since the last word. All lists are in reverse. -/
structure Gap where
  blanks : List Char
  /-- A line has ended, so blanks no longer count. -/
  broken : Bool
  firstBreak : Option Char
  moreBreaks : List Char

namespace Gap

def empty : Gap := ⟨[], false, none, []⟩

def isEmpty (g : Gap) : Bool := g.blanks.isEmpty && !g.broken

/-- Behind a line end that was escaped. -/
def afterEscape : Gap := ⟨[], true, none, []⟩

def addBlank (g : Gap) (c : Char) : Gap :=
  if g.broken then g else { g with blanks := c :: g.blanks }

def addBreak (g : Gap) (b : Char) : Gap :=
  if g.broken then { g with moreBreaks := b :: g.moreBreaks }
  else { g with blanks := [], broken := true, firstBreak := some b }

/-- What the gap is in the text, in reverse. -/
def folded (g : Gap) : List Char :=
  if !g.broken then g.blanks
  else
    match g.firstBreak with
    | none => g.moreBreaks
    | some '\n' => if g.moreBreaks.isEmpty then [' '] else g.moreBreaks
    | some b => g.moreBreaks ++ [b]

end Gap

/-- The text of a scalar in reverse, the gap behind it, and the place behind that. -/
structure Flowing where
  text : List Char
  gap : Gap
  cursor : Cursor

def isFlowIndicator (c : Char) : Bool := [',', '[', ']', '{', '}'].contains c

/-- The rest of a plain scalar. `indent` is the column that later lines must reach. -/
def plainRest (inFlow : Bool) (indent : Nat) : Nat → Flowing → Option Flowing
  | 0, _ => none
  | fuel + 1, s =>
    match s.cursor.peek with
    | none => some s
    | some c =>
      if isBlank c then
        if s.gap.broken && c == '\t' && s.cursor.column < indent then none
        else plainRest inFlow indent fuel ⟨s.text, s.gap.addBlank c, s.cursor.skip 1⟩
      else
        match s.cursor.takeBreak? with
        | some (b, next) => plainRest inFlow indent fuel ⟨s.text, s.gap.addBreak b, next⟩
        | none =>
          let next := s.cursor.peekAt 1
          let outside := !inFlow && s.cursor.column < indent
          if !s.gap.isEmpty && (outside || s.cursor.atDocumentMark || c == '#') then some s
          else if inFlow && c == ':' && (next.any fun d => isFlowIndicator d || d == '?') then none
          else if (c == ':' && endsWord next) || (inFlow && isFlowIndicator c) then some s
          else
            plainRest inFlow indent fuel ⟨c :: s.gap.folded ++ s.text, .empty, s.cursor.skip 1⟩

/-- A plain scalar from its first character on. -/
def plainScalar? (inFlow : Bool) (indent : Nat) (c : Cursor) : Option Flowing :=
  plainRest inFlow indent (c.rest.length + 1) ⟨[], .empty, c⟩

/-- The character that a letter behind a backslash stands for. -/
def escaped? : Char → Option Char
  | '0' => some '\x00'
  | 'a' => some '\x07'
  | 'b' => some '\x08'
  | 't' => some '\t'
  | '\t' => some '\t'
  | 'n' => some '\n'
  | 'v' => some '\x0b'
  | 'f' => some '\x0c'
  | 'r' => some '\r'
  | 'e' => some '\x1b'
  | ' ' => some ' '
  | '"' => some '"'
  | '/' => some '/'
  | '\\' => some '\\'
  | 'N' => some '\x85'
  | '_' => some '\u00a0'
  | 'L' => some '\u2028'
  | 'P' => some '\u2029'
  | _ => none

/-- The number of digits behind a letter that announces a code. -/
def codeLength? : Char → Option Nat
  | 'x' => some 2
  | 'u' => some 4
  | 'U' => some 8
  | _ => none

/-- The character of an escape, from behind the backslash, and the place behind it. -/
def escape? (c : Cursor) : Option (Char × Cursor) := do
  let letter ← c.peek
  match escaped? letter with
  | some d => return (d, c.skip 1)
  | none =>
    let length ← codeLength? letter
    let digits := (c.rest.drop 1).take length
    if digits.length < length then none
    let n ← Document.Word.naturalIn? 16 digits
    if (0xD800 ≤ n && n ≤ 0xDFFF) || 0x10FFFF < n then none
    return (Char.ofNat n, c.skip (length + 1))

/-- The rest of a quoted scalar up to its closing quote. -/
def quotedRest (quote : Char) : Nat → Flowing → Option Flowing
  | 0, _ => none
  | fuel + 1, s =>
    match s.cursor.peek with
    | none => none
    | some c =>
      if isBlank c then quotedRest quote fuel ⟨s.text, s.gap.addBlank c, s.cursor.skip 1⟩
      else
        match s.cursor.takeBreak? with
        | some (b, next) => quotedRest quote fuel ⟨s.text, s.gap.addBreak b, next⟩
        | none =>
          let text := s.gap.folded ++ s.text
          if s.cursor.atDocumentMark then none
          else if c == quote then
            if quote == '\'' && s.cursor.peekAt 1 == some '\'' then
              quotedRest quote fuel ⟨'\'' :: text, .empty, s.cursor.skip 2⟩
            else some ⟨text, .empty, s.cursor.skip 1⟩
          else if quote == '"' && c == '\\' then
            match (s.cursor.skip 1).takeBreak? with
            | some (_, next) => quotedRest quote fuel ⟨text, .afterEscape, next⟩
            | none =>
              match escape? (s.cursor.skip 1) with
              | some (d, next) => quotedRest quote fuel ⟨d :: text, .empty, next⟩
              | none => none
          else quotedRest quote fuel ⟨c :: text, .empty, s.cursor.skip 1⟩

/-- A quoted scalar from its opening quote on. -/
def quotedScalar? (quote : Char) (c : Cursor) : Option Flowing :=
  quotedRest quote (c.rest.length + 1) ⟨[], .empty, c.skip 1⟩

end Yaml
end ApiMapping
