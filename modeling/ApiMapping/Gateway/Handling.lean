import ApiMapping.Gateway.Basic

/-!
# Handling requests

A request goes through three steps: it is counted and looked up, its call is sent to
the target, and the target's answer is made into the reply. Between the steps other
requests may take theirs; all that requests share is the counters.
-/

namespace ApiMapping

/-- How many requests came in, and what became of them. Counting starts again at zero
after `2 ^ 64`. -/
structure Counters where
  total : UInt64
  mapped : UInt64
  targetErrors : UInt64
  unmatched : UInt64
deriving DecidableEq, Repr, Inhabited

namespace Counters

def zero : Counters := ⟨0, 0, 0, 0⟩

end Counters

/-- What becomes of a request. -/
inductive Verdict where
  | mapped
  | targetError
  | unmatched
deriving DecidableEq, Repr

namespace Counters

def arrive (c : Counters) : Counters := { c with total := c.total + 1 }

def settle (c : Counters) : Verdict → Counters
  | .mapped => { c with mapped := c.mapped + 1 }
  | .targetError => { c with targetErrors := c.targetErrors + 1 }
  | .unmatched => { c with unmatched := c.unmatched + 1 }

end Counters

/-- A request whose call is on its way to the target. -/
structure Pending where
  endpoint : Endpoint
  context : Context

/-- The answer of a target, or why there is none. -/
abbrev TargetResult := Except TargetError TargetResponse

namespace Gateway

/-- The header that names a request; one without it is given a name. -/
def correlationHeader : String := "x-request-id"

/-- Look a request up. It has a reply already, or a call to make. -/
def receive (g : Gateway) (freshId : String) (r : InboundRequest) :
    OutboundResponse ⊕ Pending :=
  let request := Request.ofParts r.method r.uri r.headers
  let correlationId := (request.header? correlationHeader).getD freshId
  match g.find? request.method request.path with
  | some e => .inr ⟨e, (Context.new request r.body correlationId).remember⟩
  | none => .inl (.ofError 404 s!"no mapping for {request.method} {request.path}")

/-- The call that a request makes. -/
def callOf (g : Gateway) (p : Pending) : TargetRequest :=
  p.endpoint.targetRequest g.plugins p.context

/-- The reply to the answer of a target. -/
def replyTo (g : Gateway) (p : Pending) (answer : TargetResponse) : OutboundResponse :=
  let response := Response.ofParts answer.status answer.headers answer.body
  let ctx := (p.context.withResponse response).remember
  let outcome := p.endpoint.router.route answer.status ctx.responseJson?
  .ofJson outcome.status (Template.fill (Template.resolveLeaf g.plugins ctx) outcome.template)

/-- Finish a request when its call has come back. -/
def complete (g : Gateway) (p : Pending) (elapsed : Nat) (result : TargetResult) :
    Verdict × OutboundResponse :=
  match result with
  | .ok answer => (.mapped, g.stamp p.endpoint elapsed (g.replyTo p answer))
  | .error _ =>
    (.targetError, g.stamp p.endpoint elapsed (.ofError 502 "target service unavailable"))

/-- What one request leads to: the reply, the calls that were sent, how the target
failed, and the counters after it. -/
structure Handled where
  response : OutboundResponse
  sent : List TargetRequest
  failure : Option TargetError
  counters : Counters

/-- Handle one request from its arrival to its reply. -/
def handle (g : Gateway) (counters : Counters) (freshId : String) (elapsed : Nat)
    (target : TargetRequest → TargetResult) (r : InboundRequest) : Handled :=
  let counters := counters.arrive
  match g.receive freshId r with
  | .inl response => ⟨response, [], none, counters.settle .unmatched⟩
  | .inr pending =>
    let call := g.callOf pending
    let result := target call
    let (verdict, response) := g.complete pending elapsed result
    let failure := match result with
      | .ok _ => none
      | .error e => some e
    ⟨response, [call], failure, counters.settle verdict⟩

end Gateway
end ApiMapping
