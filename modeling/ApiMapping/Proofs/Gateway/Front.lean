import ApiMapping.Proofs.Gateway.Interleaving
import ApiMapping.Proofs.Gateway.Statuses
import ApiMapping.Proofs.Http.Uri
import ApiMapping.Proofs.Json.Reading

/-!
# What the front makes of HTTP requests

The front answers two kinds of requests by itself, those with too large a body and those that
ask for the gateway's health, and they leave no trace. Any other request is handled once, and
its reply is sent on. Over a run of requests the counters are therefore those of the requests
that are handled, and they are what the health of the gateway tells.
-/

namespace ApiMapping
namespace Gateway

/-! ## Requests that are valid HTTP -/

/-- A request as it comes in over HTTP, and what its handling meets. -/
structure Visit where
  raw : InboundRequest
  request : HttpRequest
  valid : HttpRequest.ofInbound? raw = some request
  freshId : String
  elapsed : Nat
  target : TargetRequest → TargetResult

theorem HttpRequest.ofInbound?_eq_some {raw : InboundRequest} {r : HttpRequest}
    (h : ofInbound? raw = some r) :
    Http.Uri.parse? raw.uri = some r.target ∧ r.method = raw.method ∧ r.body = raw.body ∧
      r.headers = (raw.headers.filter fun h => Http.isVisible h.2).map fun h =>
        (Text.lower h.1, h.2) := by
  obtain ⟨target, htarget, hrest⟩ := Option.bind_eq_some_iff.mp h
  dsimp only at hrest
  split at hrest
  · cases hrest
  · cases hrest
    exact ⟨htarget, rfl, rfl, rfl⟩

namespace Visit

variable (v : Visit)

/-- What the gateway is to handle: path and query, the headers that are visible text, and
the rest as it is. -/
def inbound : InboundRequest where
  method := v.raw.method
  uri := v.request.target.uri
  headers := (v.raw.headers.filter fun h => Http.isVisible h.2).map fun h => (Text.lower h.1, h.2)
  body := v.raw.body

theorem parse?_uri : Http.Uri.parse? v.raw.uri = some v.request.target :=
  (HttpRequest.ofInbound?_eq_some v.valid).1

theorem method_request : v.request.method = v.raw.method :=
  (HttpRequest.ofInbound?_eq_some v.valid).2.1

theorem body_request : v.request.body = v.raw.body :=
  (HttpRequest.ofInbound?_eq_some v.valid).2.2.1

theorem toInbound_request : v.request.toInbound = v.inbound := by
  have hheaders := (HttpRequest.ofInbound?_eq_some v.valid).2.2.2
  rw [HttpRequest.toInbound, inbound, v.method_request, v.body_request, hheaders]

end Visit

variable (g : Gateway)

/-- Health is asked for, and no endpoint is for that. -/
structure AsksHealth (v : Visit) : Prop where
  method : v.raw.method = "GET"
  path : v.request.target.path = healthPath
  unclaimed : ∀ e ∈ g.endpoints, e.accepts "GET" healthPath = false

theorem asksHealth_iff (v : Visit) : g.asksHealth v.request = true ↔ g.AsksHealth v := by
  simp only [asksHealth, v.method_request, Bool.and_eq_true, beq_iff_eq, find?,
    Option.isNone_iff_eq_none, List.find?_eq_none, Bool.not_eq_true]
  exact ⟨fun h => ⟨h.1.1, h.1.2, h.2⟩, fun h => ⟨⟨h.method, h.path⟩, h.unclaimed⟩⟩

/-- On the path of health the front looks for the endpoint that the gateway would find. -/
theorem find?_inbound_of_health {v : Visit} (hmethod : v.raw.method = "GET")
    (hpath : v.request.target.path = healthPath) :
    g.find? v.inbound.method (Request.splitUri v.inbound.uri).1 = g.find? "GET" healthPath := by
  have hsplit : (Request.splitUri v.inbound.uri).1 = healthPath :=
    ((Http.Uri.agrees_of_parse? v.parse?_uri).path_iff (by decide) (by decide)).mpr hpath
  rw [hsplit]
  exact congrArg (g.find? · healthPath) hmethod

/-! ## Serving one request -/

section Serve

variable (counters : Counters) (v : Visit)

def serveVisit : Handled := g.serve counters v.freshId v.elapsed v.target v.request

/-- What the gateway makes of the request on its own, without the front. -/
def handleVisit : Handled := g.handle counters v.freshId v.elapsed v.target v.inbound

/-- The body is not too large, and health is not asked for. -/
def admits : Bool := v.raw.body.size ≤ g.settings.maxBodySize.toNat && !g.asksHealth v.request

theorem serveVisit_of_oversize (h : g.settings.maxBodySize.toNat < v.raw.body.size) :
    g.serveVisit counters v = ⟨tooLarge, [], none, counters⟩ := by
  rw [serveVisit, serve, v.body_request, if_pos h]

theorem serveVisit_of_health (hsize : v.raw.body.size ≤ g.settings.maxBodySize.toNat)
    (h : g.AsksHealth v) : g.serveVisit counters v = ⟨g.health counters, [], none, counters⟩ := by
  have hasks : g.asksHealth v.request = true := (g.asksHealth_iff v).mpr h
  rw [serveVisit, serve, v.body_request, if_neg (Nat.not_lt.mpr hsize), if_pos hasks]

theorem serveVisit_of_handled (hsize : v.raw.body.size ≤ g.settings.maxBodySize.toNat)
    (h : ¬ g.AsksHealth v) :
    g.serveVisit counters v =
      { g.handleVisit counters v with response := toHttp (g.handleVisit counters v).response } := by
  have hasks : ¬ g.asksHealth v.request = true := fun hasks => h ((g.asksHealth_iff v).mp hasks)
  rw [serveVisit, serve, v.body_request, if_neg (Nat.not_lt.mpr hsize), if_neg hasks,
    v.toInbound_request, handleVisit]

theorem admits_iff :
    g.admits v = true ↔ v.raw.body.size ≤ g.settings.maxBodySize.toNat ∧ ¬ g.AsksHealth v := by
  rw [admits, Bool.and_eq_true, decide_eq_true_eq, Bool.not_eq_true', ← g.asksHealth_iff v,
    Bool.not_eq_true]

/-- Only a request that is handled is counted. -/
theorem counters_serveVisit :
    (g.serveVisit counters v).counters =
      if g.admits v then (g.handleVisit counters v).counters else counters := by
  by_cases hsize : v.raw.body.size ≤ g.settings.maxBodySize.toNat
  · by_cases hasks : g.AsksHealth v
    · have hadmits : ¬ g.admits v = true := fun h => ((g.admits_iff v).mp h).2 hasks
      rw [if_neg hadmits, g.serveVisit_of_health counters v hsize hasks]
    · have hadmits : g.admits v = true := (g.admits_iff v).mpr ⟨hsize, hasks⟩
      rw [if_pos hadmits, g.serveVisit_of_handled counters v hsize hasks]
  · have hadmits : ¬ g.admits v = true := fun h => hsize ((g.admits_iff v).mp h).1
    rw [if_neg hadmits, g.serveVisit_of_oversize counters v (Nat.lt_of_not_le hsize)]

/-- How the gateway counts the request. -/
def verdict : Verdict :=
  match g.receive v.freshId v.inbound with
  | .inl _ => .unmatched
  | .inr p => (g.complete p v.elapsed (v.target (g.callOf p))).1

theorem counters_handleVisit :
    (g.handleVisit counters v).counters = counters.arrive.settle (g.verdict v) := by
  unfold handleVisit verdict
  cases hreceive : g.receive v.freshId v.inbound with
  | inl response =>
    rw [g.handle_of_refused counters v.freshId v.elapsed v.target hreceive]
  | inr p =>
    exact (g.handle_of_found counters v.freshId v.elapsed v.target hreceive).2.2

end Serve

/-- The reply is sent on, without the headers that HTTP does not allow, and nothing else is
done than handling the request. -/
structure Delivers (handled served : Handled) : Prop where
  sent : served.sent = handled.sent
  failure : served.failure = handled.failure
  counters : served.counters = handled.counters
  status : served.response.status = handled.response.status
  body : served.response.body = handled.response.body
  headers : served.response.headers =
    (handled.response.headers.filter fun h => Http.isHeaderName h.1 && Http.isHeaderValue h.2).map
      fun h => (Text.lower h.1, h.2)

/-- What the front owes to a request that comes in when the counters are these. -/
structure Fronted (counters : Counters) (v : Visit) (served : Handled) : Prop where
  oversize : g.settings.maxBodySize.toNat < v.raw.body.size →
    served = ⟨tooLarge, [], none, counters⟩
  health : v.raw.body.size ≤ g.settings.maxBodySize.toNat → g.AsksHealth v →
    served = ⟨g.health counters, [], none, counters⟩
  handled : v.raw.body.size ≤ g.settings.maxBodySize.toNat → ¬ g.AsksHealth v →
    Delivers (g.handleVisit counters v) served

theorem fronted_serveVisit {c : Configuration} {plugins : PluginTable} {g : Gateway}
    (h : build c plugins = .ok g) (counters : Counters) (v : Visit) :
    g.Fronted counters v (g.serveVisit counters v) where
  oversize := g.serveVisit_of_oversize counters v
  health := g.serveVisit_of_health counters v
  handled hsize hasks := by
    have hstatus : isReplyStatus (g.handleVisit counters v).response.status = true :=
      isReplyStatus_handle counters v.freshId v.elapsed v.target h v.inbound
    rw [g.serveVisit_of_handled counters v hsize hasks]
    exact
      { sent := rfl
        failure := rfl
        counters := rfl
        status := (toHttp_of_isReplyStatus hstatus).1
        body := (toHttp_of_isReplyStatus hstatus).2
        headers := rfl }

/-! ## Serving one request after another -/

def serveAll : Counters → List Visit → List Handled
  | _, [] => []
  | counters, v :: rest =>
    let served := g.serveVisit counters v
    served :: serveAll served.counters rest

/-- The counters after handling requests without the front. -/
def countersAfter (counters : Counters) (visits : List Visit) : Counters :=
  visits.foldl (fun counters v => (g.handleVisit counters v).counters) counters

section Run

variable (counters : Counters) (v : Visit) (visits : List Visit)

theorem countersAfter_admitted :
    g.countersAfter counters ((v :: visits).filter g.admits) =
      g.countersAfter (g.serveVisit counters v).counters (visits.filter g.admits) := by
  rw [counters_serveVisit, List.filter_cons]
  split <;> rfl

/-- Each request is served with the counters of those before it that were handled. -/
theorem getElem?_serveAll (i : Nat) :
    (g.serveAll counters visits)[i]? = visits[i]?.map
      (g.serveVisit (g.countersAfter counters ((visits.take i).filter g.admits))) := by
  induction visits generalizing counters i with
  | nil => rfl
  | cons v rest ih =>
    cases i with
    | zero => rfl
    | succ i =>
      rw [serveAll, List.getElem?_cons_succ, ih, List.getElem?_cons_succ, List.take_succ_cons,
        countersAfter_admitted]

theorem total_countersAfter :
    (g.countersAfter counters visits).total = counters.total + UInt64.ofNat visits.length := by
  induction visits generalizing counters with
  | nil => simp [countersAfter]
  | cons v rest ih =>
    have hstep : (g.handleVisit counters v).counters.total = counters.total + UInt64.ofNat 1 := by
      rw [counters_handleVisit]
      cases g.verdict v <;> rfl
    rw [countersAfter, List.foldl_cons, ← countersAfter, ih, hstep, List.length_cons, Nat.add_comm,
      UInt64.ofNat_add, UInt64.add_assoc]

theorem outcome_countersAfter (verdict : Verdict) :
    (g.countersAfter counters visits).outcome verdict =
      counters.outcome verdict + UInt64.ofNat ((visits.map g.verdict).count verdict) := by
  induction visits generalizing counters with
  | nil => simp [countersAfter]
  | cons v rest ih =>
    have harrive : counters.arrive.outcome verdict = counters.outcome verdict := by
      cases verdict <;> rfl
    have hsettle := Effect.outcome_count (.settle (g.verdict v)) counters.arrive verdict
    have hstep : (g.handleVisit counters v).counters.outcome verdict =
        counters.outcome verdict + UInt64.ofNat (if g.verdict v = verdict then 1 else 0) := by
      rw [counters_handleVisit, ← harrive]
      exact hsettle
    rw [countersAfter, List.foldl_cons, ← countersAfter, ih, hstep, List.map_cons, List.count_cons,
      Nat.add_comm, UInt64.ofNat_add, UInt64.add_assoc]
    simp only [beq_iff_eq]

end Run

/-! ## What the health document tells -/

/-- The statistics are read back as the counters, whatever these are. -/
theorem countersJson_proper (counters : Counters) (room : Nat) :
    (countersJson counters).Distinct ∧ (countersJson counters).Spellable (room + 1) := by
  have hdistinct (n : UInt64) : (Json.ofNat n.toNat).Distinct := Json.distinct_of_isLeaf rfl
  have hspellable (n : UInt64) : (Json.ofNat n.toNat).Spellable room :=
    Json.spellable_ofNat n.toNat_lt
  constructor
  · simp [countersJson, Json.distinct_object, hdistinct]
  · simp [countersJson, hspellable]

theorem json?_health (h : g.endpoints.length < UInt64.size) (counters : Counters) :
    (g.health counters).json? = some (.object [
      ("status", .string "healthy"),
      ("endpoints", Json.ofNat g.endpoints.length),
      ("stats", countersJson counters)]) := by
  obtain ⟨hdistinct, hspellable⟩ := countersJson_proper counters 125
  have hhealthy : (Json.string "healthy").Distinct := Json.distinct_of_isLeaf rfl
  have hendpoints : (Json.ofNat g.endpoints.length).Distinct := Json.distinct_of_isLeaf rfl
  apply Json.ofBytes?_text
  · simp [Json.distinct_object, hhealthy, hendpoints, hdistinct]
  · refine ⟨Json.spellable_object.mpr ?_, ?_⟩
    · simp [hspellable, Json.spellable_ofNat h]
    · simp [countersJson]

/-! ## The front and the gateway -/

/-- The front is no more than a way to the gateway behind it. -/
structure FrontAgrees : Prop where
  each : ∀ counters v, g.Fronted counters v (g.serveVisit counters v)
  /-- On the path of health the gateway would find what the front looks for. -/
  lookup : ∀ v : Visit, v.raw.method = "GET" → v.request.target.path = healthPath →
    g.find? v.inbound.method (Request.splitUri v.inbound.uri).1 = g.find? "GET" healthPath
  /-- A path with or without a query is handled as it came in. -/
  uri : ∀ (v : Visit) (rest : List Char), '#' ∉ rest → v.raw.uri = String.ofList ('/' :: rest) →
    v.inbound.uri = v.raw.uri
  /-- In a run each request is served with the counters that the requests before it leave
  when those of them that the front does not answer are handled one after another. -/
  run : ∀ (counters : Counters) (visits : List Visit) (i : Nat) (v : Visit),
    visits[i]? = some v → ∃ served, (g.serveAll counters visits)[i]? = some served ∧
      g.Fronted (g.countersAfter counters ((visits.take i).filter g.admits)) v served
  /-- From a new gateway on, the counters are the numbers of requests that were handled. -/
  tallied : ∀ visits, let counters := g.countersAfter .zero visits
    counters.total = UInt64.ofNat visits.length ∧
      ∀ verdict, counters.outcome verdict = UInt64.ofNat ((visits.map g.verdict).count verdict)
  /-- Who reads the health document finds the number of endpoints and the counters. -/
  reported : g.endpoints.length < UInt64.size → ∀ counters,
    (g.health counters).json? = some (.object [
      ("status", .string "healthy"),
      ("endpoints", Json.ofNat g.endpoints.length),
      ("stats", countersJson counters)])

theorem frontAgrees_of_build {c : Configuration} {plugins : PluginTable} {g : Gateway}
    (h : build c plugins = .ok g) : g.FrontAgrees where
  each := fronted_serveVisit h
  lookup _ hmethod hpath := g.find?_inbound_of_health hmethod hpath
  uri v rest hfragment huri := by
    have hparse := v.parse?_uri
    rw [huri] at hparse ⊢
    exact Http.Uri.uri_of_parse? hfragment hparse
  run counters visits i v hv := by
    refine ⟨_, ?_, fronted_serveVisit h _ v⟩
    rw [getElem?_serveAll, hv, Option.map_some]
  tallied visits := by
    refine ⟨?_, ?_⟩
    · rw [total_countersAfter]
      exact UInt64.zero_add _
    · intro verdict
      rw [outcome_countersAfter]
      cases verdict <;> exact UInt64.zero_add _
  reported := g.json?_health

/-- A gateway that takes bodies of at most four bytes. -/
def limitedConfiguration : Configuration :=
  { sampleConfiguration with settings := { Settings.default with maxBodySize := 4 } }

/-- Five bytes for a mapping. -/
def largeVisit : Visit where
  raw := ⟨"POST", "/users", [], ⟨#[1, 2, 3, 4, 5]⟩⟩
  request := ⟨"POST", ⟨"/users", "/users"⟩, [], ⟨#[1, 2, 3, 4, 5]⟩⟩
  valid := rfl
  freshId := "first"
  elapsed := 0
  target _ := .error (.timeout "http://t/")

/-- A request with a query and with a header whose value is not visible text. -/
def mappedVisit : Visit where
  raw := ⟨"GET", "/users?id=1", [("X-Trace", "a"), ("X-Note", "é")], .empty⟩
  request := ⟨"GET", ⟨"/users", "/users?id=1"⟩, [("x-trace", "a")], .empty⟩
  valid := rfl
  freshId := "second"
  elapsed := 7
  target _ := .ok ⟨404, [], .empty⟩

def healthVisit : Visit where
  raw := ⟨"GET", "/health?full", [("Accept", "text/html")], .empty⟩
  request := ⟨"GET", ⟨"/health", "/health?full"⟩, [("accept", "text/html")], .empty⟩
  valid := rfl
  freshId := "third"
  elapsed := 0
  target _ := .error (.timeout "http://t/")

/-- Only the second request is handled, and the third is told so. -/
theorem frontAgrees_sample : ∃ g refused mapped healthy,
    build limitedConfiguration .empty = .ok g ∧ g.FrontAgrees ∧
      (g.settings.maxBodySize.toNat < largeVisit.raw.body.size ∧ ¬ g.AsksHealth mappedVisit ∧
        g.AsksHealth healthVisit) ∧
      g.serveAll .zero [largeVisit, mappedVisit, healthVisit] = [refused, mapped, healthy] ∧
      refused.response.status = 413 ∧
      (mappedVisit.inbound.uri = "/users?id=1" ∧ mappedVisit.inbound.headers = [("x-trace", "a")] ∧
        mapped.sent.length = 1 ∧ mapped.response.status = 404) ∧
      healthy.response.json? = some (.object [
        ("status", .string "healthy"),
        ("endpoints", Json.ofNat 2),
        ("stats", countersJson ⟨1, 1, 0, 0⟩)]) := by
  have hagrees := frontAgrees_of_build (rfl : build limitedConfiguration .empty = .ok _)
  refine ⟨_, _, _, _, rfl, hagrees, ⟨by decide, ?_, ?_⟩, rfl, rfl, ⟨rfl, rfl, rfl, rfl⟩, ?_⟩
  · intro hasks
    exact absurd hasks.path (by decide)
  · exact (asksHealth_iff _ healthVisit).mp rfl
  · exact hagrees.reported (by decide) ⟨1, 1, 0, 0⟩

end Gateway
end ApiMapping
