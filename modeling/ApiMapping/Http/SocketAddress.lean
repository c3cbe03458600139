import ApiMapping.Text.Digits

/-!
# Addresses to listen on

A host and a port, the host as four octets or, in brackets, as eight groups of hex
digits. Names of hosts are not addresses.
-/

namespace ApiMapping
namespace Http

inductive Host where
  | v4 (octets : List Nat)
  | v6 (groups : List Nat) (zone : Nat)
deriving DecidableEq, Repr

structure SocketAddress where
  host : Host
  port : Nat
deriving DecidableEq, Repr

namespace SocketAddress

/-- The digits at the start of a text, and what follows them. -/
def leadingDigits (digit? : Char → Option Nat) : List Char → List Nat × List Char
  | [] => ([], [])
  | c :: rest =>
    match digit? c with
    | none => ([], c :: rest)
    | some d =>
      let (ds, after) := leadingDigits digit? rest
      (d :: ds, after)

/-- A decimal number below `limit`. -/
def number? (limit : Nat) (cs : List Char) : Option (Nat × List Char) :=
  match leadingDigits Text.digit? cs with
  | ([], _) => none
  | (ds, after) =>
    let n := Text.ofDigits 10 ds
    if n < limit then some (n, after) else none

/-- A decimal number below 256 without superfluous zeros. -/
def octet? (cs : List Char) : Option (Nat × List Char) :=
  match leadingDigits Text.digit? cs with
  | (0 :: _ :: _, _) => none
  | _ => number? 256 cs

/-- One to four hex digits. -/
def group? (cs : List Char) : Option (Nat × List Char) :=
  let (ds, after) := leadingDigits Text.hexValue? cs
  if 1 ≤ ds.length ∧ ds.length ≤ 4 then some (Text.ofDigits 16 ds, after) else none

def past? (c : Char) : List Char → Option (List Char)
  | [] => none
  | d :: rest => if d = c then some rest else none

def octets? (cs : List Char) : Option (List Nat × List Char) := do
  let (a, cs) ← octet? cs
  let (b, cs) ← octet? (← past? '.' cs)
  let (c, cs) ← octet? (← past? '.' cs)
  let (d, cs) ← octet? (← past? '.' cs)
  return ([a, b, c, d], cs)

/-- Two groups written as four octets. -/
def groupPair? (cs : List Char) : Option (List Nat × List Char) := do
  match ← octets? cs with
  | ([a, b, c, d], rest) => return ([256 * a + b, 256 * c + d], rest)
  | _ => none

/-- At most `room` groups with colons between them. A pair written as octets is the
last; the flag tells of one. -/
def groups : Nat → (first : Bool) → List Char → List Nat × Bool × List Char
  | 0, _, cs => ([], false, cs)
  | room + 1, first, cs =>
    match if first then some cs else past? ':' cs with
    | none => ([], false, cs)
    | some start =>
      match if room = 0 then none else groupPair? start with
      | some (pair, rest) => (pair, true, rest)
      | none =>
        match group? start with
        | none => ([], false, cs)
        | some (g, rest) =>
          let (more, paired, rest) := groups room false rest
          (g :: more, paired, rest)

/-- Eight groups, of which two colons may stand for one or more that are zero. -/
def allGroups? (cs : List Char) : Option (List Nat × List Char) := do
  let (head, paired, rest) := groups 8 true cs
  if head.length = 8 then return (head, rest)
  if paired then none
  let rest ← past? ':' (← past? ':' rest)
  let (tail, _, rest) := groups (7 - head.length) true rest
  return (head ++ List.replicate (8 - head.length - tail.length) 0 ++ tail, rest)

def zone (cs : List Char) : Nat × List Char :=
  ((past? '%' cs) >>= number? UInt32.size).getD (0, cs)

def host? (cs : List Char) : Option (Host × List Char) :=
  match past? '[' cs with
  | none => (octets? cs).map fun (octets, rest) => (.v4 octets, rest)
  | some inner => do
    let (gs, rest) ← allGroups? inner
    let (z, rest) := zone rest
    return (.v6 gs z, ← past? ']' rest)

/-- The address that a whole text spells. -/
def parse? (s : String) : Option SocketAddress := do
  let (host, rest) ← host? s.toList
  match ← number? UInt16.size (← past? ':' rest) with
  | (port, []) => return ⟨host, port⟩
  | _ => none

end SocketAddress
end Http
end ApiMapping
