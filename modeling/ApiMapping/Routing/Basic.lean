import ApiMapping.Config.Validation
import ApiMapping.Template.Locator

/-!
# Which reply an answer gets

A router is made from the section of a mapping's strategy. It gives exactly one reply
for every answer of the target, and says what decided.
-/

namespace ApiMapping
namespace Routing

inductive Match where
  | status (code : UInt16)
  | field (locator value : String)
  | fallback
deriving DecidableEq, Repr

structure Outcome where
  template : Json
  status : UInt16
  matched : Match
deriving Repr

structure StatusRouter where
  fallback : Reply
  custom : List (UInt16 × Reply)
deriving Repr

structure BodyRouter where
  fallback : Reply
  rules : List BodyRule
deriving Repr

inductive Router where
  | byStatus (router : StatusRouter)
  | byBody (router : BodyRouter)
deriving Repr

namespace Match

def text : Match → String
  | .status code => "status " ++ String.ofList (Text.ofNat code.toNat)
  | .field locator value => s!"{locator}={value}"
  | .fallback => "default"

end Match

namespace StatusRouter

/-- The keys must be statuses that can be sent. -/
def compile (m : Mapping) (s : StatusSection) : Except ConfigError StatusRouter := do
  let custom ← s.custom.mapM fun (key, reply) => do
    let code ← m.checkKey key
    return (code, reply)
  return ⟨s.fallback, custom⟩

/-- A reply of its own keeps the target's status; only the fallback has another. -/
def route (r : StatusRouter) (status : UInt16) : Outcome :=
  match r.custom.lookup status with
  | some reply => ⟨reply.body, status, .status status⟩
  | none => ⟨r.fallback.body, r.fallback.status, .fallback⟩

def size (r : StatusRouter) : Nat := r.custom.length

end StatusRouter

namespace BodyRouter

def compile (s : BodySection) : BodyRouter := ⟨s.fallback, s.rules⟩

/-- The outcome of one rule: its first case that lists the field's text. -/
def outcome? (body : Json) (rule : BodyRule) : Option Outcome := do
  let field ← Template.select body rule.locator
  let text := field.plainText
  let c ← rule.cases.find? fun c => c.values.contains text
  return ⟨c.reply.body, c.reply.status, .field rule.locator text⟩

/-- The first rule that applies decides. -/
def route (r : BodyRouter) (body : Option Json) : Outcome :=
  match body >>= fun v => r.rules.findSome? (outcome? v) with
  | some outcome => outcome
  | none => ⟨r.fallback.body, r.fallback.status, .fallback⟩

def size (r : BodyRouter) : Nat := r.rules.length

end BodyRouter

namespace Router

def compile (m : Mapping) : Except ConfigError Router :=
  match m.strategy, m.response.byStatus, m.response.byBody with
  | .byStatus, some s, _ => .byStatus <$> StatusRouter.compile m s
  | .byBody, _, some s => .ok (.byBody (.compile s))
  | strategy, _, _ => .error (.missingRouting m.name strategy)

def route (status : UInt16) (body : Option Json) : Router → Outcome
  | .byStatus router => router.route status
  | .byBody router => router.route body

def strategy : Router → Strategy
  | .byStatus _ => .byStatus
  | .byBody _ => .byBody

/-- The number of replies by status, or of rules. -/
def size : Router → Nat
  | .byStatus router => router.size
  | .byBody router => router.size

end Router

end Routing
end ApiMapping
