import ApiMapping.Gateway.Front
import ApiMapping.Proofs.Gateway.Building
import ApiMapping.Proofs.Gateway.Handling
import ApiMapping.Proofs.Routing.BodyRouting

/-!
# The statuses that leave a gateway

Whatever a target answers, the status of a reply is one that the mapping offers for it, and
the check has seen that it can be sent. A status that can be sent reaches the caller as it
is, and so does the body.
-/

namespace ApiMapping

open Routing

/-- The statuses of a mapping's replies to an answer of the target with a status of its own. -/
inductive Mapping.Offers (m : Mapping) (own : UInt16) : UInt16 → Prop where
  /-- A reply declared for the target's status leaves it as it is. -/
  | own {s : StatusSection} : m.strategy = .byStatus → m.response.byStatus = some s →
    statusKey own ∈ s.custom.map Prod.fst → Offers m own own
  | statusFallback {s : StatusSection} : m.strategy = .byStatus → m.response.byStatus = some s →
    Offers m own s.fallback.status
  | bodyFallback {s : BodySection} : m.strategy = .byBody → m.response.byBody = some s →
    Offers m own s.fallback.status
  | bodyCase {s : BodySection} {rule : BodyRule} {c : BodyCase} : m.strategy = .byBody →
    m.response.byBody = some s → rule ∈ s.rules → c ∈ rule.cases → Offers m own c.reply.status

namespace Routing

/-- A status that a compiled table knows is declared by its key. -/
theorem declared_of_recoded {entries : List (String × Reply)} {coded : List (UInt16 × Reply)}
    (h : List.Forall₂ Recodes entries coded) {code : UInt16} {reply : Reply}
    (hlookup : coded.lookup code = some reply) :
    statusKey code ∈ entries.map Prod.fst ∧ isReplyStatus code = true := by
  obtain ⟨before, after, rfl, -⟩ := List.lookup_eq_some_iff.mp hlookup
  have hcoded : (before ++ (code, reply) :: after)[before.length]? = some (code, reply) := by simp
  obtain ⟨entry, hentry, hcode, -⟩ := getElem?_of_forall₂ h.flip hcoded
  obtain ⟨hkey, hstatus⟩ := eq_statusKey_of_statusOfKey? hcode
  have hmem : entry.1 ∈ entries.map Prod.fst := List.mem_map_of_mem (List.mem_of_getElem? hentry)
  rw [hkey] at hmem
  exact ⟨hmem, hstatus⟩

theorem BodyRouter.status_route (s : BodySection) (body : Option Json) :
    ((compile s).route body).status = s.fallback.status ∨
      ∃ rule ∈ s.rules, ∃ c ∈ rule.cases, ((compile s).route body).status = c.reply.status := by
  rcases (compile s).route_spec body with ⟨i, j, hfirst⟩ | ⟨-, hfallback⟩
  · obtain ⟨⟨document, rule, -, hrule, field, c, -, hcase, -, houtcome⟩, -⟩ := hfirst
    refine Or.inr ⟨rule, List.mem_of_getElem? hrule, c, List.mem_of_getElem? hcase, ?_⟩
    rw [houtcome]
  · rw [hfallback]
    exact Or.inl rfl

/-- The router of a checked mapping answers with a status that the mapping offers and that can
be sent. -/
theorem Router.offers_route {m : Mapping} {router : Router} (hcheck : m.check = .ok ())
    (hrouter : compile m = .ok router) (status : UInt16) (body : Option Json) :
    m.Offers status (router.route status body).status ∧
      isReplyStatus (router.route status body).status = true := by
  have hsection := (Mapping.check_eq_ok_iff.mp hcheck).2
  cases compile_eq_ok_iff.mp hrouter with
  | @byStatus s r hstrategy hs hr =>
    rw [Mapping.checkSection_of_byStatus hstrategy, hs] at hsection
    obtain ⟨hfallback, hcoded⟩ := StatusRouter.compile_eq_ok_iff.mp hr
    change m.Offers status (r.route status).status ∧ isReplyStatus (r.route status).status = true
    unfold StatusRouter.route
    cases hlookup : r.custom.lookup status with
    | some reply =>
      obtain ⟨hkey, hstatus⟩ := declared_of_recoded hcoded hlookup
      exact ⟨.own hstrategy hs hkey, hstatus⟩
    | none =>
      rw [← hfallback]
      exact ⟨.statusFallback hstrategy hs, (Mapping.checkStatusSection_eq_ok_iff.mp hsection).1⟩
  | @byBody s hstrategy hs =>
    rw [Mapping.checkSection_of_byBody hstrategy, hs] at hsection
    obtain ⟨hfallback, hcases⟩ := Mapping.checkBodySection_eq_ok_iff.mp hsection
    change m.Offers status ((BodyRouter.compile s).route body).status ∧
      isReplyStatus ((BodyRouter.compile s).route body).status = true
    rcases BodyRouter.status_route s body with h | ⟨rule, hrule, c, hc, h⟩
    · rw [h]
      exact ⟨.bodyFallback hstrategy hs, hfallback⟩
    · rw [h]
      exact ⟨.bodyCase hstrategy hs hrule hc, hcases rule hrule c hc⟩

end Routing

namespace Gateway

theorem isReplyStatus_iff {code : UInt16} : isReplyStatus code = true ↔ 100 ≤ code ∧ code ≤ 599 := by
  simp [isReplyStatus]

/-- A reply whose status can be sent is sent with that status and its body. -/
theorem toHttp_of_isReplyStatus {r : OutboundResponse} (h : isReplyStatus r.status = true) :
    (toHttp r).status = r.status ∧ (toHttp r).body = r.body := by
  obtain ⟨hlow, hhigh⟩ := isReplyStatus_iff.mp h
  have hhttp : 100 ≤ r.status ∧ r.status ≤ 999 := ⟨hlow, UInt16.le_trans hhigh (by decide)⟩
  refine ⟨?_, rfl⟩
  simp [toHttp, httpStatus, hhttp]

variable {c : Configuration} {plugins : PluginTable} {g : Gateway}

/-- An endpoint that is found answers from a mapping that has been checked. -/
theorem checked_of_find? (h : build c plugins = .ok g) {method path : String} {e : Endpoint}
    (he : g.find? method path = some e) :
    e.mapping ∈ c.mappings ∧ e.mapping.check = .ok () ∧ Router.compile e.mapping = .ok e.router := by
  obtain ⟨hvalid, hserves, -⟩ := build_eq_ok_iff.mp h
  obtain ⟨i, hi⟩ := List.mem_iff_getElem?.mp (List.mem_of_find?_eq_some he)
  obtain ⟨m, hm, hmapping, -, hrouter⟩ := getElem?_of_forall₂ hserves.flip hi
  have hmem : m ∈ c.mappings := List.mem_of_getElem? hm
  rw [hmapping]
  exact ⟨hmem, (Configuration.validate_eq_ok_iff.mp hvalid).1.1 m hmem, hrouter⟩

/-- What leaves a gateway on account of a request. -/
structure Settled (c : Configuration) (g : Gateway) (target : TargetRequest → TargetResult)
    (r : InboundRequest) (handled : Handled) : Prop where
  /-- The target hears nothing of a request that no mapping is for. -/
  unmatched : g.find? r.method (Request.splitUri r.uri).1 = none →
    handled.sent = [] ∧ handled.response.status = 404
  /-- A mapping's request makes one call, and what comes back decides the status. -/
  matched : ∀ e, g.find? r.method (Request.splitUri r.uri).1 = some e →
    e.mapping ∈ c.mappings ∧ ∃ call, handled.sent = [call] ∧
      match target call with
      | .error _ => handled.response.status = 502
      | .ok answer => e.mapping.Offers answer.status handled.response.status
  /-- No status needs to be replaced. -/
  sendable : 100 ≤ handled.response.status ∧ handled.response.status ≤ 599
  delivered : (toHttp handled.response).status = handled.response.status ∧
    (toHttp handled.response).body = handled.response.body

section Handle

variable (counters : Counters) (freshId : String) (elapsed : Nat)
  (target : TargetRequest → TargetResult)

/-- The status of the reply to a request for which there is an endpoint. -/
theorem status_handle_of_find? (h : build c plugins = .ok g) {r : InboundRequest} {e : Endpoint}
    (he : g.find? r.method (Request.splitUri r.uri).1 = some e) :
    let handled := g.handle counters freshId elapsed target r
    isReplyStatus handled.response.status = true ∧ ∃ call, handled.sent = [call] ∧
      match target call with
      | .error _ => handled.response.status = 502
      | .ok answer => e.mapping.Offers answer.status handled.response.status := by
  intro handled
  obtain ⟨-, hcheck, hrouter⟩ := checked_of_find? h he
  obtain ⟨ctx, hctx⟩ := g.receive_of_find?_some freshId he
  obtain ⟨hresponse, hsent, -⟩ := g.handle_of_found counters freshId elapsed target hctx
  cases hresult : target (g.callOf ⟨e, ctx⟩) with
  | error _ =>
    rw [hresult] at hresponse
    have hstatus : handled.response.status = 502 := by
      rw [hresponse, status_complete_error]
    refine ⟨by rw [hstatus]; rfl, _, hsent, ?_⟩
    rw [hresult]
    exact hstatus
  | ok answer =>
    rw [hresult] at hresponse
    obtain ⟨body, hbody⟩ := g.status_complete_ok ⟨e, ctx⟩ elapsed answer
    rw [← hresponse] at hbody
    obtain ⟨hoffers, hstatus⟩ := Router.offers_route hcheck hrouter answer.status body
    rw [← hbody] at hoffers hstatus
    refine ⟨hstatus, _, hsent, ?_⟩
    rw [hresult]
    exact hoffers

theorem isReplyStatus_handle (h : build c plugins = .ok g) (r : InboundRequest) :
    isReplyStatus (g.handle counters freshId elapsed target r).response.status = true := by
  cases hfind : g.find? r.method (Request.splitUri r.uri).1 with
  | none =>
    obtain ⟨message, hrefused⟩ := g.receive_of_find?_none freshId hfind
    rw [g.handle_of_refused counters freshId elapsed target hrefused]
    rfl
  | some e => exact (status_handle_of_find? counters freshId elapsed target h hfind).1

/-- A gateway that has been built gives every request a status that can be sent, whatever
its target does. -/
theorem settled_handle (h : build c plugins = .ok g) (r : InboundRequest) :
    Settled c g target r (g.handle counters freshId elapsed target r) where
  unmatched hnone := by
    obtain ⟨message, hrefused⟩ := g.receive_of_find?_none freshId hnone
    rw [g.handle_of_refused counters freshId elapsed target hrefused]
    exact ⟨rfl, rfl⟩
  matched e he :=
    ⟨(checked_of_find? h he).1, (status_handle_of_find? counters freshId elapsed target h he).2⟩
  sendable := isReplyStatus_iff.mp (isReplyStatus_handle counters freshId elapsed target h r)
  delivered := toHttp_of_isReplyStatus (isReplyStatus_handle counters freshId elapsed target h r)

end Handle

/-- A target whose status is beyond all statuses of HTTP. The section has no reply declared for it,
and the fallback's status leaves the gateway. -/
theorem settled_sample : ∃ g e call,
    build sampleConfiguration .empty = .ok g ∧
      let target : TargetRequest → TargetResult := fun _ => .ok ⟨65535, [], .empty⟩
      let r : InboundRequest := ⟨"GET", "/users?id=1", [], .empty⟩
      let handled := g.handle .zero "id" 0 target r
      (g.find? r.method (Request.splitUri r.uri).1 = some e ∧ e.mapping.name = "read") ∧
        (handled.sent = [call] ∧ call.url = "http://t/") ∧
        handled.response.status = 502 ∧
        Settled sampleConfiguration g target r handled :=
  ⟨_, _, _, rfl, ⟨rfl, rfl⟩, ⟨rfl, rfl⟩, rfl, settled_handle .zero "id" 0 _ rfl _⟩

end Gateway

end ApiMapping
