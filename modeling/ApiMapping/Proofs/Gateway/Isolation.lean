import ApiMapping.Proofs.Gateway.Correlation
import ApiMapping.Proofs.Gateway.Handling
import ApiMapping.Proofs.Gateway.Interleaving

/-!
# Concurrent requests do not disturb each other

In every state that a gateway comes to, whatever the order of the steps was, each caller
gets the response that its request gets alone, the target gets one call for each request
that an endpoint accepts, and the counters account for every request once.
-/

namespace ApiMapping

variable {g : Gateway} {r : InboundRequest}

/-- How a request whose outcome is counted has come to it. -/
def Outcome (g : Gateway) (r : InboundRequest) (verdict : Verdict) (reply : Nat → OutboundResponse)
    (calls : List TargetRequest) (results : List TargetResult) : Prop :=
  (∃ freshId response, g.receive freshId r = .inl response ∧ calls = [] ∧ results = [] ∧
    verdict = .unmatched ∧ reply = fun _ => response) ∨
  ∃ freshId p result, g.receive freshId r = .inr p ∧ calls = [g.callOf p] ∧ results = [result] ∧
    verdict = (g.complete p 0 result).1 ∧ reply = fun elapsed => (g.complete p elapsed result).2

/-- What has happened to a request by each phase. -/
def History (g : Gateway) (r : InboundRequest) (calls : List TargetRequest)
    (results : List TargetResult) : Phase → Prop
  | .waiting => calls = [] ∧ results = []
  | .counted => calls = [] ∧ results = []
  | .refused response =>
    calls = [] ∧ results = [] ∧ ∃ freshId, g.receive freshId r = .inl response
  | .found p => calls = [] ∧ results = [] ∧ ∃ freshId, g.receive freshId r = .inr p
  | .calling p =>
    calls = [g.callOf p] ∧ results = [] ∧ ∃ freshId, g.receive freshId r = .inr p
  | .called p result =>
    calls = [g.callOf p] ∧ results = [result] ∧ ∃ freshId, g.receive freshId r = .inr p
  | .settled verdict reply => Outcome g r verdict reply calls results
  | .answered verdict response =>
    ∃ reply elapsed, Outcome g r verdict reply calls results ∧ response = reply elapsed

theorem Course.history {phase : Phase} {calls : List TargetRequest} {results : List TargetResult}
    (h : Course g r phase calls results) : History g r calls results phase := by
  induction h with
  | start => exact ⟨rfl, rfl⟩
  | step _ hadvance ih =>
    cases hadvance with
    | arrive =>
      obtain ⟨rfl, rfl⟩ := ih
      exact ⟨rfl, rfl⟩
    | refuse hr =>
      obtain ⟨rfl, rfl⟩ := ih
      exact ⟨rfl, rfl, _, hr⟩
    | find hr =>
      obtain ⟨rfl, rfl⟩ := ih
      exact ⟨rfl, rfl, _, hr⟩
    | send p =>
      obtain ⟨rfl, rfl, hr⟩ := ih
      exact ⟨rfl, rfl, hr⟩
    | receive p result =>
      obtain ⟨rfl, rfl, hr⟩ := ih
      exact ⟨rfl, rfl, hr⟩
    | settleRefused response =>
      obtain ⟨rfl, rfl, freshId, hr⟩ := ih
      exact Or.inl ⟨freshId, response, hr, rfl, rfl, rfl, rfl⟩
    | settleCalled p result =>
      obtain ⟨rfl, rfl, freshId, hr⟩ := ih
      exact Or.inr ⟨freshId, p, result, hr, rfl, rfl, rfl, rfl⟩
    | answer verdict reply elapsed =>
      simp only [Effect.calls, Effect.results, List.append_nil]
      exact ⟨reply, elapsed, ih, rfl⟩

/-- A request that was settled among others has what it has alone: the response but for the
time, the calls, and the way it is counted. -/
theorem Outcome.eq_handle {verdict : Verdict} {reply : Nat → OutboundResponse}
    {calls : List TargetRequest} {results : List TargetResult}
    (h : Outcome g r verdict reply calls results) (counters : Counters) (freshId : String)
    (elapsed elapsed' : Nat) (target : TargetRequest → TargetResult)
    (htarget : ∀ call ∈ calls, ∀ result ∈ results, target call = result) :
    let alone := g.handle counters freshId elapsed target r
    (reply elapsed').untimed = alone.response.untimed ∧ calls = alone.sent ∧
      alone.counters = counters.arrive.settle verdict := by
  rcases h with ⟨freshId', response, hr, rfl, rfl, rfl, rfl⟩ |
    ⟨freshId', p, result, hr, rfl, rfl, rfl, rfl⟩
  · obtain ⟨name, hname⟩ := g.receive_fresh freshId' freshId r
    rw [hr, Sum.map_inl, id] at hname
    rw [g.handle_of_refused counters freshId elapsed target hname]
    exact ⟨rfl, rfl, rfl⟩
  · obtain ⟨name, hname⟩ := g.receive_fresh freshId' freshId r
    rw [hr, Sum.map_inr] at hname
    have halone := g.handle_of_found counters freshId elapsed target hname
    have hresult : target (g.callOf p) = result := htarget _ (by simp) _ (by simp)
    have htime := g.complete_elapsed p 0 elapsed result
    have htime' := g.complete_elapsed p elapsed' elapsed result
    simp only [g.callOf_named, g.complete_named, hresult] at halone
    obtain ⟨hresponse, hsent, hcounters⟩ := halone
    exact ⟨by rw [hresponse]; exact htime'.2, hsent.symm, by rw [hcounters, htime.1]⟩

section Calls

variable {calls : List TargetRequest} {results : List TargetResult} {phase : Phase}

theorem accepts_of_found {freshId : String} {p : Pending} (h : g.receive freshId r = .inr p) :
    g.accepts r = true := by
  rw [g.accepts_eq_isRight freshId, h, Sum.isRight_inr]

theorem accepts_of_refused {freshId : String} {response : OutboundResponse}
    (h : g.receive freshId r = .inl response) : g.accepts r = false := by
  rw [g.accepts_eq_isRight freshId, h, Sum.isRight_inl]

theorem Outcome.length_calls {verdict : Verdict} {reply : Nat → OutboundResponse}
    (h : Outcome g r verdict reply calls results) :
    calls.length = if g.accepts r then 1 else 0 := by
  rcases h with ⟨_, _, hr, rfl, _⟩ | ⟨_, _, _, hr, rfl, _⟩
  · simp [accepts_of_refused hr]
  · simp [accepts_of_found hr]

/-- There is at most one call, and none for a request that no endpoint accepts. -/
theorem History.length_calls_le (h : History g r calls results phase) :
    calls.length ≤ if g.accepts r then 1 else 0 := by
  cases phase with
  | waiting => simp [h.1]
  | counted => simp [h.1]
  | refused response => simp [h.1]
  | found p => simp [h.1]
  | calling p =>
    obtain ⟨rfl, _, _, hr⟩ := h
    simp [accepts_of_found hr]
  | called p result =>
    obtain ⟨rfl, _, _, hr⟩ := h
    simp [accepts_of_found hr]
  | settled verdict reply => exact (Outcome.length_calls h).le
  | answered verdict response =>
    obtain ⟨_, _, h, _⟩ := h
    exact h.length_calls.le

theorem History.length_calls_of_answered {verdict : Verdict} {response : OutboundResponse}
    (h : History g r calls results (.answered verdict response)) :
    calls.length = if g.accepts r then 1 else 0 := by
  obtain ⟨_, _, h, _⟩ := h
  exact h.length_calls

end Calls

/-- What concurrent callers, the target and the counters are promised. -/
structure Orderly {n : Nat} (g : Gateway) (requests : Fin n → InboundRequest) (s : Traffic n) :
    Prop where
  /-- A response is the one that the request gets alone from a target that gives the same
  answer, whatever the counters, the name and the time are then. It made the same calls and
  is counted in the same way. -/
  isolated : ∀ i verdict response, s.phase i = .answered verdict response →
    ∀ (counters : Counters) (freshId : String) (elapsed : Nat)
      (target : TargetRequest → TargetResult),
      (∀ call ∈ s.callsOf i, ∀ result ∈ s.answersTo i, target call = result) →
      let alone := g.handle counters freshId elapsed target (requests i)
      response.untimed = alone.response.untimed ∧ s.callsOf i = alone.sent ∧
        alone.counters = counters.arrive.settle verdict
  /-- There is never a second call, and none for a request that no endpoint accepts. -/
  no_retry : ∀ i, (s.callsOf i).length ≤ if g.accepts (requests i) then 1 else 0
  /-- By the time of the response the call has been made. -/
  one_call : ∀ i verdict response, s.phase i = .answered verdict response →
    (s.callsOf i).length = if g.accepts (requests i) then 1 else 0
  /-- Modulo `2 ^ 64` the total is the sum of the outcomes and of what is in flight. -/
  balanced : s.counters.total = s.counters.mapped + s.counters.targetErrors +
    s.counters.unmatched + UInt64.ofNat (∑ i, (s.phase i).inFlight)
  /-- Each counter of an outcome is the number of requests with that outcome. -/
  tallied : ∀ verdict,
    s.counters.outcome verdict = UInt64.ofNat (∑ i, (s.phase i).settledAs verdict)
  /-- At rest the outcomes partition the total, which is the number of requests. -/
  partitioned : s.AtRest → s.counters.total = UInt64.ofNat n ∧
    s.counters.total = s.counters.mapped + s.counters.targetErrors + s.counters.unmatched
  /-- All requests can get their response. -/
  live : ∃ t, Relation.ReflTransGen (Step g requests) s t ∧ t.AtRest

section Balance

variable {n : Nat} {requests : Fin n → InboundRequest} {s : Traffic n}

theorem balanced_of_reachable (h : Reachable g requests s) :
    s.counters.total = s.counters.mapped + s.counters.targetErrors + s.counters.unmatched +
      UInt64.ofNat (∑ i, (s.phase i).inFlight) := by
  obtain ⟨htotal, houtcome⟩ := counters_of_reachable h
  have hmapped := houtcome .mapped
  have herrors := houtcome .targetError
  have hunmatched := houtcome .unmatched
  simp only [Counters.outcome] at hmapped herrors hunmatched
  rw [htotal, hmapped, herrors, hunmatched]
  simp only [Phase.arrived_eq, Finset.sum_add_distrib, UInt64.ofNat_add]

theorem inFlight_eq_zero_of_atRest (h : s.AtRest) : ∑ i, (s.phase i).inFlight = 0 := by
  apply Finset.sum_eq_zero
  intro i _
  obtain ⟨verdict, response, hi⟩ := h i
  rw [hi]
  rfl

theorem arrived_of_atRest (h : s.AtRest) : ∑ i, (s.phase i).arrived = n := by
  have hone (i : Fin n) : (s.phase i).arrived = 1 := by
    obtain ⟨verdict, response, hi⟩ := h i
    rw [hi]
    rfl
  simp [hone]

end Balance

/-- Concurrent requests are isolated and accounted for exactly once. -/
theorem orderly_of_reachable {n : Nat} (g : Gateway) (requests : Fin n → InboundRequest)
    (s : Traffic n) (h : Reachable g requests s) : Orderly g requests s where
  isolated i verdict response hi counters freshId elapsed target htarget := by
    have hhistory := (course_of_reachable h i).history
    rw [hi] at hhistory
    obtain ⟨reply, elapsed', houtcome, rfl⟩ := hhistory
    exact houtcome.eq_handle counters freshId elapsed elapsed' target htarget
  no_retry i := (course_of_reachable h i).history.length_calls_le
  one_call i verdict response hi := by
    have hhistory := (course_of_reachable h i).history
    rw [hi] at hhistory
    exact hhistory.length_calls_of_answered
  balanced := balanced_of_reachable h
  tallied := (counters_of_reachable h).2
  partitioned hrest := by
    refine ⟨by rw [(counters_of_reachable h).1, arrived_of_atRest hrest], ?_⟩
    rw [balanced_of_reachable h, inFlight_eq_zero_of_atRest hrest]
    simp
  live := exists_atRest g requests s

/-- A gateway with one mapping, from `/a` to a target whose answer is not looked at. -/
def singleMapping : Gateway where
  settings := { Settings.default with debugHeaders := true }
  endpoints := [{
    mapping := {
      name := "a"
      strategy := .byBody
      source := ⟨"/a", "GET"⟩
      target := ⟨"http://t/", "POST", []⟩
      request := ⟨[], .null⟩
      response := ⟨none, some ⟨⟨200, .bool true⟩, []⟩⟩ }
    method := "GET"
    router := .byBody ⟨⟨200, .bool true⟩, []⟩ }]
  plugins := .empty

/-- One request that is accepted and one that is not. -/
def twoRequests : Fin 2 → InboundRequest
  | 0 => ⟨"get", "/a?x=1", [], .empty⟩
  | 1 => ⟨"GET", "/b", [], .empty⟩

/-- The second request gets its response while the first waits for the target, which fails. -/
theorem orderly_twoRequests : ∃ s failed missed,
    Reachable singleMapping twoRequests s ∧
      (s.phase 0 = .answered .targetError failed ∧ failed.status = 502) ∧
      (s.phase 1 = .answered .unmatched missed ∧ missed.status = 404) ∧
      (s.AtRest ∧ s.sent.length = 1 ∧ s.counters = ⟨2, 0, 1, 1⟩) ∧
      Orderly singleMapping twoRequests s ∧
      ∀ counters freshId elapsed,
        let target : TargetRequest → TargetResult := fun _ => .error (.timeout "http://t/")
        let alone := singleMapping.handle counters freshId elapsed target (twoRequests 0)
        failed.untimed = alone.response.untimed ∧ s.callsOf 0 = alone.sent ∧
          alone.counters = counters.arrive.settle .targetError := by
  have haccepted : ∃ p, singleMapping.receive "first" (twoRequests 0) = .inr p := ⟨_, rfl⟩
  have hrefused : ∃ missed, singleMapping.receive "second" (twoRequests 1) = .inl missed ∧
      missed.status = 404 := ⟨_, rfl, rfl⟩
  obtain ⟨p, hp⟩ := haccepted
  obtain ⟨missed, hmissed, hmissedStatus⟩ := hrefused
  have hreach : Reachable singleMapping twoRequests _ := ((((((((((Relation.ReflTransGen.refl.tail
    (.move (i := 0) .arrive)).tail
    (.move (i := 0) (.find hp))).tail
    (.move (i := 0) (.send p))).tail
    (.move (i := 1) .arrive)).tail
    (.move (i := 1) (.refuse hmissed))).tail
    (.move (i := 1) (.settleRefused missed))).tail
    (.move (i := 1) (.answer .unmatched _ 3))).tail
    (.move (i := 0) (.receive p (.error (.timeout "http://t/"))))).tail
    (.move (i := 0) (.settleCalled p _))).tail
    (.move (i := 0) (.answer .targetError _ 7)))
  have horderly := orderly_of_reachable singleMapping twoRequests _ hreach
  refine ⟨_, _, missed, hreach, ⟨rfl, singleMapping.status_complete_error p 7 _⟩,
    ⟨rfl, hmissedStatus⟩, ⟨?_, rfl, rfl⟩, horderly, ?_⟩
  · intro i
    match i with
    | 0 => exact ⟨_, _, rfl⟩
    | 1 => exact ⟨_, _, rfl⟩
  · intro counters freshId elapsed
    apply horderly.isolated 0 _ _ rfl
    intro call _ result hresult
    exact (List.mem_singleton.mp hresult).symm

end ApiMapping
