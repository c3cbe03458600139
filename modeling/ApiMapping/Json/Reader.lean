import ApiMapping.Document.Values
import ApiMapping.Number.Notation

/-!
# Reading JSON text

The text is read from left to right into a document. Reading stops at the first
place where no JSON value can go on, and the node that stands there says what is
wrong with it. What is nested too deeply is read as well, but can only be skipped.
-/

namespace ApiMapping
namespace Json

open Document

/-- Only these are blanks between the parts of a JSON text. -/
def isSpace (c : Char) : Bool := c == ' ' || c == '\t' || c == '\n' || c == '\r'

def skipSpace (cs : List Char) : List Char := cs.dropWhile isSpace

/-- A node and what follows it. Nothing follows where reading stopped. -/
structure Step where
  node : Node
  rest : Option (List Char)

namespace Step

def stopped (stop : Stop) : Step := ⟨.stopped stop, none⟩

def scalar (s : Scalar) (rest : List Char) : Step := ⟨.scalar s, some rest⟩

end Step

/-- A part of a string: a character, or the number that an escape gives. -/
inductive StringPart where
  | letter (c : Char)
  | code (n : Nat)

/-- The number that four hexadecimal digits spell. -/
def hexCode? (a b c d : Char) : Option Nat :=
  ([a, b, c, d].mapM (Word.digitIn? 16)).map (Text.ofDigits 16)

/-- The character that an escape of one letter stands for. -/
def unescape? : Char → Option Char
  | '"' => some '"'
  | '\\' => some '\\'
  | '/' => some '/'
  | 'b' => some '\x08'
  | 'f' => some '\x0c'
  | 'n' => some '\n'
  | 'r' => some '\r'
  | 't' => some '\t'
  | _ => none

/-- The parts of a string up to its closing quote, and what follows the quote. -/
def stringParts : List Char → List StringPart × Except Fault (List Char)
  | [] => ([], .error .truncated)
  | '"' :: rest => ([], .ok rest)
  | '\\' :: 'u' :: a :: b :: c :: d :: rest =>
    match hexCode? a b c d with
    | some n =>
      let (parts, after) := stringParts rest
      (.code n :: parts, after)
    | none => ([], .error .malformed)
  | '\\' :: 'u' :: few =>
    ([], .error (if (String.ofList few).utf8ByteSize < 4 then .truncated else .malformed))
  | ['\\'] => ([], .error .truncated)
  | '\\' :: e :: rest =>
    match unescape? e with
    | some c =>
      let (parts, after) := stringParts rest
      (.letter c :: parts, after)
    | none => ([], .error .malformed)
  | c :: rest =>
    if c.toNat < 0x20 then ([], .error .malformed)
    else
      let (parts, after) := stringParts rest
      (.letter c :: parts, after)

def isHighSurrogate (n : Nat) : Bool := 0xD800 ≤ n && n ≤ 0xDBFF

def isLowSurrogate (n : Nat) : Bool := 0xDC00 ≤ n && n ≤ 0xDFFF

def joinSurrogates (high low : Nat) : Char :=
  Char.ofNat (0x10000 + (high - 0xD800) * 0x400 + (low - 0xDC00))

/-- The characters that the parts stand for. Surrogates go in pairs; `unfinished` is
what is wrong with a string whose last part waits for the other half. -/
def joinParts (unfinished : Fault) : List StringPart → Except Fault (List Char)
  | [] => .ok []
  | .letter c :: rest => (c :: ·) <$> joinParts unfinished rest
  | [.code n] =>
    if isHighSurrogate n then .error unfinished
    else if isLowSurrogate n then .error .malformed
    else .ok [Char.ofNat n]
  | .code n :: .letter c :: rest =>
    if isHighSurrogate n || isLowSurrogate n then .error .malformed
    else (Char.ofNat n :: c :: ·) <$> joinParts unfinished rest
  | .code n :: .code m :: rest =>
    if isHighSurrogate n then
      if isLowSurrogate m then (joinSurrogates n m :: ·) <$> joinParts unfinished rest
      else .error .malformed
    else if isLowSurrogate n then .error .malformed
    else (Char.ofNat n :: ·) <$> joinParts unfinished (.code m :: rest)

/-- A string, from behind its opening quote. -/
def readString (cs : List Char) : Step :=
  match stringParts cs with
  | (parts, .ok rest) =>
    match joinParts .malformed parts with
    | .ok s => .scalar (.text (String.ofList s)) rest
    | .error f => .scalar (.unusable f) rest
  | (parts, .error f) =>
    match joinParts f parts with
    | .ok _ => .stopped (.all f)
    | .error g => .stopped ⟨g, f, g⟩

/-- A number that has no value because it is too large. -/
def ofBinary64? : Option Number.Binary64 → Scalar
  | some x => .number (.real x)
  | none => .unusable .malformed

/-- Where the digits of a number are missing. -/
def missingDigits (rest : List Char) : Step :=
  match rest with
  | [] => .stopped ⟨.truncated, .malformed, .malformed⟩
  | _ => .stopped (.all .malformed)

/-- Read an exponent behind its mark; the digits before it are known. -/
def readExponent (negative : Bool) (whole fraction cs : List Char) : Step :=
  let (minus, rest) := match cs with
    | '-' :: rest => (true, rest)
    | '+' :: rest => (false, rest)
    | rest => (false, rest)
  match Text.natural? (rest.takeWhile Text.isDigit) with
  | none => missingDigits rest
  | some n =>
    let power : Int := if minus then -n else n
    .scalar (ofBinary64? ((Number.keptDecimal whole fraction power).approximate? negative))
      (rest.dropWhile Text.isDigit)

/-- What may follow the digits of a number: an exponent, or nothing of it. -/
def readPower (negative : Bool) (whole fraction rest : List Char) : Step :=
  let plain : Step :=
    .scalar (ofBinary64? ((Number.keptDecimal whole fraction 0).approximate? negative)) rest
  match rest with
  | c :: tail =>
    if c = 'e' ∨ c = 'E' then readExponent negative whole fraction tail else plain
  | [] => plain

/-- A number without point and exponent. Zero with a sign is no integer. -/
def wholeNumber (negative : Bool) (whole : List Char) : Scalar :=
  let n := (Text.natural? whole).getD 0
  let i : Int := if negative then -n else n
  if (negative ∧ n = 0) ∨ !inIntegerRange i then
    ofBinary64? ((Number.keptDecimal whole [] 0).approximate? negative)
  else .number (.integer i)

/-- What may follow the whole digits of a number: a fraction, an exponent, or neither. -/
def readBehind (negative : Bool) (whole rest : List Char) : Step :=
  match rest with
  | '.' :: tail =>
    let fraction := tail.takeWhile Text.isDigit
    let after := tail.dropWhile Text.isDigit
    if fraction.isEmpty then missingDigits after else readPower negative whole fraction after
  | c :: _ =>
    if c = 'e' ∨ c = 'E' then readPower negative whole [] rest
    else .scalar (wholeNumber negative whole) rest
  | [] => .scalar (wholeNumber negative whole) rest

/-- A number, from behind its sign. -/
def readNumber (negative : Bool) (cs : List Char) : Step :=
  let whole := cs.takeWhile Text.isDigit
  let rest := cs.dropWhile Text.isDigit
  match whole with
  | [] => missingDigits rest
  | '0' :: _ :: _ => .stopped (.all .malformed)
  | _ => readBehind negative whole rest

/-- The rest of a word of which the first letter was read. -/
def readWord (s : Scalar) : List Char → List Char → Step
  | [], cs => .scalar s cs
  | _ :: _, [] => .stopped ⟨.truncated, .truncated, .malformed⟩
  | w :: word, c :: cs => if w = c then readWord s word cs else .stopped (.all .malformed)

/-- Everything but sequences and mappings. -/
def readScalar : List Char → Step
  | [] => .stopped (.all .truncated)
  | '"' :: rest => readString rest
  | 'n' :: rest => readWord .null ['u', 'l', 'l'] rest
  | 't' :: rest => readWord (.bool true) ['r', 'u', 'e'] rest
  | 'f' :: rest => readWord (.bool false) ['a', 'l', 's', 'e'] rest
  | '-' :: rest => readNumber true rest
  | c :: rest =>
    if Text.isDigit c then readNumber false (c :: rest) else .stopped (.all .malformed)

/-- What stands where the first key of a mapping was looked for. -/
def oddEnding (cs : List Char) : Ending :=
  match cs with
  | [] => .stopped .truncated
  | '[' :: _ => .oddKey (.ok "sequence")
  | '{' :: _ => .oddKey (.ok "map")
  | _ => .oddKey (readScalar cs).node.describe

/-- A key that is not there, and so no value either. -/
def noMember (f : Fault) : Node × Node := (.stopped (.all f), .stopped (.all f))

/-- Wrap a collection that stands at the depth where no more may be used. -/
def atDepth (room : Nat) (node : Node) : Node :=
  match room with
  | 0 => .deep node
  | _ => node

/-- The items of a sequence, how they end, and what follows. -/
structure Items where
  items : List Node
  ending : Ending
  rest : Option (List Char)

/-- The members of a mapping, how they end, and what follows. -/
structure Members where
  members : List (Node × Node)
  ending : Ending
  rest : Option (List Char)

mutual

/-- Read a value. Every call for a part has one unit of `fuel` less, and `room` is the
number of levels that may still be used. -/
def readValue (fuel room : Nat) (cs : List Char) : Step :=
  match fuel with
  | 0 => .stopped (.all .truncated)
  | fuel + 1 =>
    match skipSpace cs with
    | '[' :: rest =>
      let r : Items := match skipSpace rest with
        | ']' :: after => ⟨[], .closed, some after⟩
        | [] => ⟨[], .stopped .truncated, none⟩
        | first => readItems fuel (room - 1) first
      ⟨atDepth room (.sequence true r.items r.ending), r.rest⟩
    | '{' :: rest =>
      let r : Members := match skipSpace rest with
        | '}' :: after => ⟨[], .closed, some after⟩
        | '"' :: key => readMembers fuel (room - 1) key
        | odd => ⟨[], oddEnding odd, none⟩
      ⟨atDepth room (.mapping r.members r.ending), r.rest⟩
    | other => readScalar other

/-- Read items up to the closing bracket, from the first character of an item. -/
def readItems (fuel room : Nat) (cs : List Char) : Items :=
  match fuel with
  | 0 => ⟨[], .stopped .truncated, none⟩
  | fuel + 1 =>
    let step := readValue fuel room cs
    match step.rest with
    | none => ⟨[step.node], .closed, none⟩
    | some after =>
      match skipSpace after with
      | ']' :: rest => ⟨[step.node], .closed, some rest⟩
      | ',' :: rest =>
        match skipSpace rest with
        | ']' :: _ => ⟨[step.node, .stopped (.all .malformed)], .closed, none⟩
        | next =>
          let more := readItems fuel room next
          { more with items := step.node :: more.items }
      | [] => ⟨[step.node], .stopped .truncated, none⟩
      | _ => ⟨[step.node], .stopped .malformed, none⟩

/-- Read members up to the closing brace, from behind the quote of a key. -/
def readMembers (fuel room : Nat) (cs : List Char) : Members :=
  match fuel with
  | 0 => ⟨[], .stopped .truncated, none⟩
  | fuel + 1 =>
    let key := readString cs
    match key.rest with
    | none => ⟨[(key.node, key.node)], .closed, none⟩
    | some after =>
      match skipSpace after with
      | [] => ⟨[(key.node, .stopped (.all .truncated))], .closed, none⟩
      | ':' :: start =>
        let step := readValue fuel room start
        let member := (key.node, step.node)
        match step.rest with
        | none => ⟨[member], .closed, none⟩
        | some after =>
          match skipSpace after with
          | '}' :: rest => ⟨[member], .closed, some rest⟩
          | ',' :: rest =>
            match skipSpace rest with
            | '"' :: next =>
              let more := readMembers fuel room next
              { more with members := member :: more.members }
            | [] => ⟨[member, noMember .truncated], .closed, none⟩
            | _ => ⟨[member, noMember .malformed], .closed, none⟩
          | [] => ⟨[member], .stopped .truncated, none⟩
          | _ => ⟨[member], .stopped .malformed, none⟩
      | _ => ⟨[(key.node, .stopped (.all .malformed))], .closed, none⟩

end

/-- The levels of sequences and mappings that may be used. -/
def usableDepth : Nat := 127

/-- Read one value from the start of a text. -/
def readDocument (cs : List Char) : Step := readValue (2 * cs.length + 2) usableDepth cs

/-- Read a whole text as what `read` takes its document as. Nothing but blanks may
follow the value. -/
def decode (read : Node → Except ReadError α) (s : String) : Except ReadError α := do
  let step := readDocument s.toList
  let a ← read step.node
  match step.rest with
  | none => throw (.fault .truncated)
  | some rest => if (skipSpace rest).isEmpty then return a else throw .malformed

/-- The value that a whole text spells. -/
def ofText (s : String) : Except ReadError Json := decode Node.json s

/-- The value that the bytes of a UTF-8 text spell. No bytes spell none. -/
def ofBytes? (bytes : ByteArray) : Option Json := do
  let s ← String.fromUTF8? bytes
  (ofText s).toOption

end Json
end ApiMapping
