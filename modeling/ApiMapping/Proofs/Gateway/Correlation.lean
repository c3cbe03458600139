import ApiMapping.Gateway.Handling
import ApiMapping.Proofs.Template.Resolution

/-!
# Names of requests

A request without a name of its own is given one. The name decides nothing: under every
name the same endpoint is found, the same call is made and the same reply is given. The
time that a request took shows in one header and nowhere else.
-/

namespace ApiMapping

open Template

namespace Context

/-- The same exchange under another name. -/
def named (c : Context) (correlationId : String) : Context :=
  { c with correlationId := correlationId }

end Context

namespace Pending

def named (p : Pending) (correlationId : String) : Pending :=
  { p with context := p.context.named correlationId }

end Pending

theorem Template.Source.resolve_named (source : Source) (ctx : Context) (correlationId : String)
    (locator : String) :
    source.resolve (ctx.named correlationId) locator = source.resolve ctx locator := by
  cases source <;> rfl

theorem Template.resolveLeaf_named (plugins : PluginTable) (ctx : Context)
    (correlationId : String) :
    resolveLeaf plugins (ctx.named correlationId) = resolveLeaf plugins ctx :=
  resolveLeaf_congr fun source locator => source.resolve_named ctx correlationId locator

namespace Endpoint

theorem header?_named (plugins : PluginTable) (ctx : Context) (correlationId name : String)
    (v : Json) :
    header? plugins (ctx.named correlationId) name v = header? plugins ctx name v := by
  have hresolve (e : Expression) :
      e.resolve plugins (ctx.named correlationId) = e.resolve plugins ctx := by
    apply Expression.resolve_congr
    intro source locator
    exact source.resolve_named ctx correlationId locator
  cases v with
  | string raw => simp only [header?, hresolve]
  | _ => rfl

theorem targetRequest_named (e : Endpoint) (plugins : PluginTable) (ctx : Context)
    (correlationId : String) :
    e.targetRequest plugins (ctx.named correlationId) = e.targetRequest plugins ctx := by
  simp only [targetRequest, resolveLeaf_named, header?_named]

end Endpoint

namespace Gateway

variable (g : Gateway)

theorem callOf_named (p : Pending) (correlationId : String) :
    g.callOf (p.named correlationId) = g.callOf p :=
  p.endpoint.targetRequest_named g.plugins p.context correlationId

theorem replyTo_named (p : Pending) (correlationId : String) (answer : TargetResponse) :
    g.replyTo (p.named correlationId) answer = g.replyTo p answer := by
  let answered (ctx : Context) : Context :=
    (ctx.withResponse (Response.ofParts answer.status answer.headers answer.body)).remember
  have hleaf := resolveLeaf_named g.plugins (answered p.context) correlationId
  have hanswered : answered (p.named correlationId).context =
      (answered p.context).named correlationId := rfl
  unfold replyTo
  change OutboundResponse.ofJson _
    (fill (resolveLeaf g.plugins (answered (p.named correlationId).context)) _) = _
  rw [hanswered, hleaf]
  rfl

theorem complete_named (p : Pending) (correlationId : String) (elapsed : Nat)
    (result : TargetResult) :
    g.complete (p.named correlationId) elapsed result = g.complete p elapsed result := by
  cases result with
  | ok answer =>
    simp only [complete, replyTo_named]
    rfl
  | error _ => rfl

/-- Whether an endpoint accepts the request. -/
def accepts (r : InboundRequest) : Bool :=
  let request := Request.ofParts r.method r.uri r.headers
  (g.find? request.method request.path).isSome

/-- A request is looked up alike under every name. -/
theorem receive_fresh (freshId freshId' : String) (r : InboundRequest) :
    ∃ correlationId, g.receive freshId' r =
      (g.receive freshId r).map id fun p => p.named correlationId := by
  unfold receive
  dsimp only
  split
  · exact ⟨_, rfl⟩
  · exact ⟨"", rfl⟩

theorem accepts_eq_isRight (freshId : String) (r : InboundRequest) :
    g.accepts r = (g.receive freshId r).isRight := by
  unfold accepts receive
  dsimp only
  split <;> simp_all

end Gateway

namespace OutboundResponse

/-- The response with the time that it took left out. -/
def untimed (r : OutboundResponse) : OutboundResponse :=
  { r with headers := r.headers.map fun (name, value) =>
      if name = "X-Mapping-Time" then (name, "") else (name, value) }

end OutboundResponse

namespace Gateway

variable (g : Gateway)

theorem untimed_stamp (e : Endpoint) (elapsed elapsed' : Nat) (r : OutboundResponse) :
    (g.stamp e elapsed r).untimed = (g.stamp e elapsed' r).untimed := by
  unfold stamp
  split <;> simp [OutboundResponse.untimed]

/-- The time changes neither the verdict nor the rest of the response. -/
theorem complete_elapsed (p : Pending) (elapsed elapsed' : Nat) (result : TargetResult) :
    (g.complete p elapsed result).1 = (g.complete p elapsed' result).1 ∧
      (g.complete p elapsed result).2.untimed = (g.complete p elapsed' result).2.untimed := by
  cases result with
  | ok answer => exact ⟨rfl, g.untimed_stamp p.endpoint elapsed elapsed' _⟩
  | error _ => exact ⟨rfl, g.untimed_stamp p.endpoint elapsed elapsed' _⟩

end Gateway
end ApiMapping
