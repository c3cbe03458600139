import ApiMapping.Http.Syntax
import ApiMapping.Keyed
import ApiMapping.Text.Digits
import ApiMapping.Text.LetterCase

/-!
# What is sent and received

The headers of a message and the parameters of its URL, and the requests that go to a target
service.
-/

namespace ApiMapping

/-! ## Headers

Names are compared in lower case. Repeated names keep all their values in order, and
a look-up gives the first.
-/

namespace Headers

/-- The values of each name, in lower case. -/
def group (pairs : List (String × String)) : List (String × List String) :=
  Keyed.group (pairs.map fun (name, value) => (Text.lower name, value))

def first? (headers : List (String × List String)) (name : String) : Option String :=
  headers.lookup (Text.lower name) >>= List.head?

end Headers

/-! ## Query strings

Parameters are parted by ampersands and written `name=value`. Reading takes a plus
sign for a space and undoes percent escapes; writing escapes everything that is not
unreserved, so that a value can never end its parameter.
-/

namespace Query

/-- A plus sign stands for a space. -/
def spaced (c : Char) : Char := if c = '+' then ' ' else c

/-- A name or value as it was meant. What is not UTF-8 keeps its escapes. -/
def decode (cs : List Char) : String :=
  let raw := cs.map spaced
  String.ofList ((Text.percentDecode? raw).getD raw)

/-- The parameter that a part spells. A part without equals sign has no value, and
nothing is no parameter. -/
def parameter? (part : List Char) : Option (String × String) :=
  match Text.cut? '=' part with
  | some (name, value) => some (decode name, decode value)
  | none => if part.isEmpty then none else some (decode part, "")

/-- The parameters in order. -/
def pairs (query : List Char) : List (String × String) :=
  (Text.pieces '&' query).filterMap parameter?

/-- The values of each name. -/
def parameters (query : Option String) : List (String × List String) :=
  match query with
  | some q => Keyed.group (pairs q.toList)
  | none => []

def encodePair (p : String × String) : List Char :=
  Text.percentEncode p.1.toList ++ '=' :: Text.percentEncode p.2.toList

def encode (ps : List (String × String)) : List Char :=
  List.intercalate ['&'] (ps.map encodePair)

/-- Add parameters to a URL, which may have some already. -/
def append (url : String) (ps : List (String × String)) : String :=
  match ps with
  | [] => url
  | _ =>
    let mark := if url.toList.contains '?' then '&' else '?'
    String.ofList (url.toList ++ mark :: encode ps)

@[simp] theorem append_nil (url : String) : append url [] = url := rfl

end Query

/-! ## Calls to a target service

What is sent to a target, what it answers, and the ways in which a call fails. Some
requests are refused before anything is sent.
-/

structure TargetRequest where
  method : String
  url : String
  headers : List (String × String)
  body : Option ByteArray

structure TargetResponse where
  status : UInt16
  headers : List (String × String)
  body : ByteArray

inductive TargetError where
  | client (reason : String)
  | invalidMethod (method : String)
  | request (url reason : String)
  | timeout (url : String)
deriving DecidableEq, Repr

namespace TargetError

def message : TargetError → String
  | .client reason => s!"failed to build HTTP client: {reason}"
  | .invalidMethod method => s!"invalid target method: {method}"
  | .request url reason => s!"request to {url} failed: {reason}"
  | .timeout url => s!"request to {url} timed out"

end TargetError

namespace TargetRequest

/-- A letter, then letters, digits and three marks, up to a colon. -/
def hasScheme (url : String) : Bool :=
  match url.toList with
  | [] => false
  | c :: rest =>
    c.isAlpha && (rest.dropWhile fun c => c.isAlphanum || c = '+' || c = '-' || c = '.').head? = some ':'

/-- Why a request cannot be sent at all. Methods are sent in upper case. -/
def refusal? (r : TargetRequest) : Option TargetError :=
  if !Http.isMethod (Text.upper r.method) then some (.invalidMethod r.method)
  else if !hasScheme r.url then
    some (.request r.url "builder error: relative URL without a base")
  else none

end TargetRequest

end ApiMapping
