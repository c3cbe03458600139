import ApiMapping.Gateway.Handling

/-!
# What becomes of one request

A request that no endpoint accepts has its reply at once and makes no call. Any other makes
one call, and its reply is made from the answer.
-/

namespace ApiMapping
namespace Gateway

variable (g : Gateway) {r : InboundRequest}

theorem receive_of_find?_none (freshId : String)
    (h : g.find? r.method (Request.splitUri r.uri).1 = none) :
    ∃ message, g.receive freshId r = .inl (.ofError 404 message) := by
  have hfind : g.find? (Request.ofParts r.method r.uri r.headers).method
      (Request.ofParts r.method r.uri r.headers).path = none := h
  unfold receive
  dsimp only
  rw [hfind]
  exact ⟨_, rfl⟩

theorem receive_of_find?_some (freshId : String) {e : Endpoint}
    (h : g.find? r.method (Request.splitUri r.uri).1 = some e) :
    ∃ ctx, g.receive freshId r = .inr ⟨e, ctx⟩ := by
  have hfind : g.find? (Request.ofParts r.method r.uri r.headers).method
      (Request.ofParts r.method r.uri r.headers).path = some e := h
  unfold receive
  dsimp only
  rw [hfind]
  exact ⟨_, rfl⟩

section Handle

variable (counters : Counters) (freshId : String) (elapsed : Nat)
  (target : TargetRequest → TargetResult)

theorem handle_of_refused {response : OutboundResponse}
    (h : g.receive freshId r = .inl response) :
    g.handle counters freshId elapsed target r =
      ⟨response, [], none, counters.arrive.settle .unmatched⟩ := by
  simp only [handle, h]

theorem handle_of_found {p : Pending} (h : g.receive freshId r = .inr p) :
    let handled := g.handle counters freshId elapsed target r
    let done := g.complete p elapsed (target (g.callOf p))
    handled.response = done.2 ∧ handled.sent = [g.callOf p] ∧
      handled.counters = counters.arrive.settle done.1 := by
  simp only [handle, h, and_self]

end Handle

/-! ## The status of a reply -/

@[simp] theorem status_stamp (e : Endpoint) (elapsed : Nat) (r : OutboundResponse) :
    (g.stamp e elapsed r).status = r.status := by
  unfold stamp
  split <;> rfl

theorem status_complete_error (p : Pending) (elapsed : Nat) (e : TargetError) :
    (g.complete p elapsed (.error e)).2.status = 502 := by
  rw [complete, status_stamp]
  rfl

/-- The router gives the status of the reply, for the target's status and some body. -/
theorem status_complete_ok (p : Pending) (elapsed : Nat) (answer : TargetResponse) :
    ∃ body, (g.complete p elapsed (.ok answer)).2.status =
      (p.endpoint.router.route answer.status body).status := by
  rw [complete, status_stamp]
  exact ⟨_, rfl⟩

end Gateway
end ApiMapping
