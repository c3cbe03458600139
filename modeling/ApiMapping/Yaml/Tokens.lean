import ApiMapping.Yaml.Token

/-!
# From a YAML text to its tokens

Indentation opens and closes block collections. That something is the key of a mapping
shows only at the colon behind it, so the places where a key may have started are kept,
and the tokens of a key are put in afterwards. A key must be on one line and not long.
-/

namespace ApiMapping
namespace Yaml

/-- A place where a key may have started: the number of tokens before it, and whether
nothing but a key can stand there. -/
structure KeyPlace where
  required : Bool
  count : Nat
  index : Nat
  line : Nat
  column : Nat

/-- What was read so far. The newest token comes first, and so does the innermost
collection; `keys` has one place for the block context and one for each flow collection
around. -/
structure Lexer where
  cursor : Cursor
  tokens : List Token
  count : Nat
  keys : List (Option KeyPlace)
  indents : List Nat
  keyAllowed : Bool

namespace Lexer

def start (cs : List Char) : Lexer := ⟨.ofText cs, [], 0, [none], [], true⟩

def inFlow (l : Lexer) : Bool := l.keys.length > 1

def push (l : Lexer) (t : Token) : Lexer :=
  { l with tokens := t :: l.tokens, count := l.count + 1 }

/-- Put a token behind the first `n`. -/
def insertAt (l : Lexer) (n : Nat) (t : Token) : Lexer :=
  let later := l.count - n
  { l with tokens := l.tokens.take later ++ t :: l.tokens.drop later, count := l.count + 1 }

def moveTo (l : Lexer) (c : Cursor) : Lexer := { l with cursor := c }

def skip (l : Lexer) (n : Nat) : Lexer := { l with cursor := l.cursor.skip n }

def allowKey (l : Lexer) (b : Bool) : Lexer := { l with keyAllowed := b }

/-- No key has started here. There is a defect if one had to. -/
def dropKey? (l : Lexer) : Option Lexer :=
  match l.keys with
  | some k :: outer => if k.required then none else some { l with keys := none :: outer }
  | _ => some l

/-- A key may start here. -/
def markKey? (l : Lexer) : Option Lexer :=
  if !l.keyAllowed then some l
  else do
    let l ← l.dropKey?
    let c := l.cursor
    let required := !l.inFlow && l.indents.head? == some c.column
    return { l with keys := some ⟨required, l.count, c.index, c.line, c.column⟩ :: l.keys.drop 1 }

/-- Forget the places that are too far back to have started a key. -/
def dropStale? (l : Lexer) : Option Lexer := do
  let c := l.cursor
  let keys ← l.keys.mapM fun place =>
    match place with
    | none => some none
    | some k =>
      if k.line < c.line || k.index + 1024 < c.index then
        if k.required then none else some none
      else some (some k)
  return { l with keys := keys }

/-- Open a block collection if the column is further in than the one around. -/
def openBlock (l : Lexer) (column : Nat) (place : Nat) (t : Token) : Lexer :=
  if l.inFlow || l.indents.head?.any (column ≤ ·) then l
  else { l with indents := column :: l.indents }.insertAt place t

/-- Close the block collections that are further in than `keep` says. -/
def closeBlocks (l : Lexer) (keep : Nat → Bool) : Lexer :=
  if l.inFlow then l
  else
    let closed := l.indents.takeWhile fun n => !keep n
    let l := closed.foldl (fun l _ => l.push .blockEnd) l
    { l with indents := l.indents.drop closed.length }

/-- Pass blanks, comments and line ends. Tabs do not count where a key may start. -/
def toNextToken : Nat → Lexer → Lexer
  | 0, l => l
  | fuel + 1, l =>
    let c := l.cursor
    let c := if c.column = 0 ∧ c.peek = some '\ufeff' then c.skip 1 else c
    let tabs := l.inFlow || !l.keyAllowed
    let c := c.skipWhile fun d => d == ' ' || (tabs && d == '\t')
    let c := if c.peek = some '#' then c.skipWhile fun d => !isBreak d else c
    match c.takeBreak? with
    | some (_, next) => toNextToken fuel { l with cursor := next, keyAllowed := l.keyAllowed || !l.inFlow }
    | none => { l with cursor := c }

/-- A token for which no key can have started before it, alone on its level. -/
def atTop? (l : Lexer) : Option Lexer := do
  let l ← (l.closeBlocks fun _ => false).dropKey?
  return l.allowKey false

def endStream? (l : Lexer) : Option Lexer := do
  let l ← l.atTop?
  return l.push .streamEnd

def documentMark? (l : Lexer) (t : Token) : Option Lexer := do
  let l ← l.atTop?
  return (l.skip 3).push t

def directiveLine? (l : Lexer) : Option Lexer := do
  let l ← l.atTop?
  let (t, next) ← directive? l.cursor
  return (l.moveTo next).push t

def openFlow? (l : Lexer) (t : Token) : Option Lexer := do
  let l ← l.markKey?
  return (({ l with keys := none :: l.keys }.allowKey true).skip 1).push t

/-- Outside of all flow collections there is no level to leave. -/
def leaveFlow (l : Lexer) : Lexer :=
  match l.keys with
  | _ :: outer :: rest => { l with keys := outer :: rest }
  | _ => l

def closeFlow? (l : Lexer) (t : Token) : Option Lexer := do
  let l ← l.dropKey?
  return ((l.leaveFlow.allowKey false).skip 1).push t

def separator? (l : Lexer) : Option Lexer := do
  let l ← l.dropKey?
  return ((l.allowKey true).skip 1).push .separator

/-- The sign of an item or of a key in block context, where a line may start with it. -/
def blockSign? (l : Lexer) (opens : Token) : Option Lexer :=
  if l.inFlow then some l
  else if !l.keyAllowed then none
  else some (l.openBlock l.cursor.column l.count opens)

def entry? (l : Lexer) : Option Lexer := do
  let l ← (← l.blockSign? .blockSequence).dropKey?
  return ((l.allowKey true).skip 1).push .entry

def key? (l : Lexer) : Option Lexer := do
  let l ← (← l.blockSign? .blockMapping).dropKey?
  return ((l.allowKey (!l.inFlow)).skip 1).push .key

/-- A colon. If a key may have started before it, it did. -/
def value? (l : Lexer) : Option Lexer :=
  match l.keys with
  | some k :: outer =>
    let l := l.insertAt k.count .key
    let l := l.openBlock k.column k.count .blockMapping
    some ((({ l with keys := none :: outer }.allowKey false).skip 1).push .value)
  | _ => do
    let l ← l.blockSign? .blockMapping
    return ((l.allowKey (!l.inFlow)).skip 1).push .value

def anchorLike? (l : Lexer) (make : String → Token) : Option Lexer := do
  let l ← l.markKey?
  let (name, next) ← anchorName? l.cursor
  return ((l.allowKey false).moveTo next).push (make name)

def tagToken? (l : Lexer) : Option Lexer := do
  let l ← l.markKey?
  let (t, next) ← tag? l.cursor
  if !endsTag l.inFlow next.peek then none
  return ((l.allowKey false).moveTo next).push t

def block? (l : Lexer) (literal : Bool) : Option Lexer := do
  let l ← l.dropKey?
  let (text, next) ← blockScalar? literal l.indents.head? l.cursor
  let style := if literal then .literal else .quoted
  return ((l.allowKey true).moveTo next).push (.scalar style (String.ofList text))

def quoted? (l : Lexer) (quote : Char) : Option Lexer := do
  let l ← l.markKey?
  let s ← quotedScalar? quote l.cursor
  return ((l.allowKey false).moveTo s.cursor).push (.scalar .quoted (String.ofList s.text.reverse))

/-- A plain scalar. If it ends at the start of a line, a key may follow. -/
def plain? (l : Lexer) : Option Lexer := do
  let l ← l.markKey?
  let indent := (l.indents.head?.map (· + 1)).getD 0
  let s ← plainScalar? l.inFlow indent l.cursor
  return ((l.allowKey s.gap.broken).moveTo s.cursor).push
    (.scalar .plain (String.ofList s.text.reverse))

/-- Characters that have a meaning at the start of a token. -/
def isIndicator (c : Char) : Bool := "-?:,[]{}#&*!|>'\"%@`".toList.contains c

/-- A plain scalar starts here. -/
def startsPlain (l : Lexer) (c : Char) (next : Option Char) : Bool :=
  !(isBlank c || isBreak c || isIndicator c) ||
    (c == '-' && !next.any isBlank) ||
    (!l.inFlow && (c == '?' || c == ':') && !endsWord next)

/-- Read the token that starts here. -/
def token? (l : Lexer) (c : Char) : Option Lexer :=
  let next := l.cursor.peekAt 1
  let sign := l.inFlow || endsWord next
  if l.cursor.column = 0 ∧ c = '%' then l.directiveLine?
  else if l.cursor.atMark '-' then l.documentMark? .documentStart
  else if l.cursor.atMark '.' then l.documentMark? .documentEnd
  else if c = '[' then l.openFlow? .flowSequence
  else if c = '{' then l.openFlow? .flowMapping
  else if c = ']' then l.closeFlow? .flowSequenceEnd
  else if c = '}' then l.closeFlow? .flowMappingEnd
  else if c = ',' then l.separator?
  else if c = '-' ∧ endsWord next then l.entry?
  else if c = '?' ∧ sign then l.key?
  else if c = ':' ∧ sign then l.value?
  else if c = '*' then l.anchorLike? .alias
  else if c = '&' then l.anchorLike? .anchor
  else if c = '!' then l.tagToken?
  else if c = '|' ∧ !l.inFlow then l.block? true
  else if c = '>' ∧ !l.inFlow then l.block? false
  else if c = '\'' ∨ c = '"' then l.quoted? c
  else if l.startsPlain c next then l.plain?
  else none

/-- Read all tokens that are left. Each step takes a character, or ends the stream. -/
def run : Nat → Lexer → Option (List Token)
  | 0, _ => none
  | fuel + 1, l =>
    match (l.toNextToken (l.cursor.rest.length + 1)).dropStale? with
    | none => none
    | some l =>
      let l := l.closeBlocks (· ≤ l.cursor.column)
      match l.cursor.peek with
      | none => l.endStream?.map fun l => l.tokens.reverse
      | some c =>
        match l.token? c with
        | some l => run fuel l
        | none => none

end Lexer

/-- The tokens of a text; `none` if it has none or a character that YAML forbids. -/
def tokens? (s : String) : Option (List Token) :=
  let cs := s.toList
  if cs.all isAllowed then Lexer.run (cs.length + 2) (.start cs) else none

end Yaml
end ApiMapping
