import ApiMapping.Text.Basic

/-!
# The words of HTTP

Which texts are methods, header names, header values and URIs, and what a URI says about a
request.
-/

namespace ApiMapping
namespace Http

/-! ## Methods and headers

Methods are told apart by case, header names are not.
-/

/-- Characters of a method. Some that a header name may have are not among them. -/
def isMethodChar (c : Char) : Bool := c.isAlphanum || "!*+-.^_`|~".toList.contains c

def isMethod (s : String) : Bool := !s.isEmpty && s.toList.all isMethodChar

def isHeaderNameChar (c : Char) : Bool := c.isAlphanum || "!#$%&'*+-.^_`|~".toList.contains c

def isHeaderName (s : String) : Bool := !s.isEmpty && s.toList.all isHeaderNameChar

/-- No control characters but the tab. -/
def isHeaderValueChar (c : Char) : Bool := (c.toNat ≥ 0x20 && c.toNat ≠ 0x7F) || c = '\t'

def isHeaderValue (s : String) : Bool := s.toList.all isHeaderValueChar

/-- Only visible ASCII, spaces and tabs. -/
def isVisible (s : String) : Bool :=
  s.toList.all fun c => (0x20 ≤ c.toNat && c.toNat < 0x7F) || c = '\t'

/-! ## The URI of a request

A request names a path with or without a query, either alone or behind a scheme and
an authority. A fragment is not part of it. A lone authority has no path at all.
-/

/-- What a URI says about a request: its path, and the path with the query. -/
structure RequestTarget where
  path : String
  uri : String
deriving DecidableEq, Repr

namespace Uri

/-- Characters that may stand in a path, some of them only because clients send them. -/
def isPathChar (c : Char) : Bool :=
  let n := c.toNat
  n == 0x21 || (0x24 ≤ n && n ≤ 0x3B) || n == 0x3D || (0x40 ≤ n && n ≤ 0x5F) ||
    (0x61 ≤ n && n ≤ 0x7A) || n == 0x7C || 0x7E ≤ n || c == '"' || c == '\x7b' || c == '\x7d'

def isQueryChar (c : Char) : Bool :=
  let n := c.toNat
  n == 0x21 || (0x24 ≤ n && n ≤ 0x3B) || n == 0x3D || 0x3F ≤ n

def isSchemeChar (c : Char) : Bool := c.isAlphanum || c == '+' || c == '-' || c == '.'

/-- Characters of an authority that have no meaning of their own there. -/
def isAuthorityChar (c : Char) : Bool := c.isAlphanum || "!$&'()*+,-.;=_~".toList.contains c

/-- Whether a path and query may be sent, and what they say. -/
def pathAndQuery? (cs : List Char) : Option RequestTarget :=
  let whole := cs.takeWhile (· != '#')
  let (path, query) := (Text.cut? '?' whole).getD (whole, [])
  if path.all isPathChar && query.all isQueryChar then
    let orRoot (part : List Char) : String := if part.isEmpty then "/" else String.ofList part
    some ⟨orRoot path, orRoot whole⟩
  else none

/-- What was seen of an authority so far. -/
structure AuthorityState where
  colons : Nat
  opened : Bool
  closed : Bool
  percent : Bool

/-- Brackets close what was counted before them, and so does the sign behind user
information. -/
def authorityStep (s : AuthorityState) (c : Char) : Option AuthorityState :=
  if c = ':' then if s.colons ≥ 8 then none else some { s with colons := s.colons + 1 }
  else if c = '[' then if s.percent || s.opened then none else some { s with opened := true }
  else if c = ']' then
    if !s.opened || s.closed then none
    else some { s with closed := true, colons := 0, percent := false }
  else if c = '@' then some { s with colons := 0, percent := false }
  else if c = '%' then some { s with percent := true }
  else if isAuthorityChar c then some s
  else none

def isAuthority (cs : List Char) : Bool :=
  match cs.foldlM authorityStep ⟨0, false, false, false⟩ with
  | none => false
  | some s =>
    s.opened == s.closed && s.colons ≤ 1 && !s.percent && cs.getLast? != some '@'

def isAuthorityEnd (c : Char) : Bool := c == '/' || c == '?' || c == '#'

/-- What follows the scheme; `none` inside if there is none, outside if it is too long. -/
def afterScheme? (cs : List Char) : Option (Option (List Char)) :=
  let scheme := cs.takeWhile isSchemeChar
  match Text.afterStart? [':', '/', '/'] (cs.dropWhile isSchemeChar) with
  | none => some none
  | some rest =>
    if scheme.isEmpty && rest.isEmpty then some none
    else if scheme.length > 64 then none
    else some (some rest)

/-- The longest URI, in bytes. -/
def maxLength : Nat := 65534

def parse? (s : String) : Option RequestTarget :=
  let cs := s.toList
  if s.utf8ByteSize > maxLength then none
  else
    match cs with
    | [] => none
    | ['*'] => some ⟨"*", "*"⟩
    | '/' :: _ => pathAndQuery? cs
    | _ =>
      match afterScheme? cs with
      | none => none
      | some none => if isAuthority cs then some ⟨"", ""⟩ else none
      | some (some rest) =>
        let authority := rest.takeWhile fun c => !isAuthorityEnd c
        if authority.isEmpty || !isAuthority authority then none
        else pathAndQuery? (rest.dropWhile fun c => !isAuthorityEnd c)

end Uri

end Http
end ApiMapping
