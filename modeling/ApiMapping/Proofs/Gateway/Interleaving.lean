import ApiMapping.Gateway.Handling
import Mathlib.Algebra.BigOperators.Fin
import Mathlib.Algebra.Order.BigOperators.Group.Finset
import Mathlib.Logic.Relation

/-!
# Requests side by side

Finitely many requests are on their way through one gateway. Each goes through its phases
in order, and between any two of its steps the others may take theirs. What requests share
is the counters and the target, which sees calls and gives answers in any order.
-/

namespace ApiMapping

/-- How far a request has come. -/
inductive Phase where
  | waiting
  | counted
  | refused (response : OutboundResponse)
  | found (p : Pending)
  | calling (p : Pending)
  | called (p : Pending) (result : TargetResult)
  /-- The outcome is counted; only the time is missing from the response. -/
  | settled (verdict : Verdict) (reply : Nat → OutboundResponse)
  | answered (verdict : Verdict) (response : OutboundResponse)

/-- What a step of one request does to what all requests share. -/
inductive Effect where
  | silent
  | arrive
  | settle (verdict : Verdict)
  | send (call : TargetRequest)
  | receive (result : TargetResult)

/-- One step of a request. The name that it may be given, the answer of the target and the
time are not the gateway's choice. -/
inductive Advance (g : Gateway) (r : InboundRequest) : Phase → Effect → Phase → Prop where
  | arrive : Advance g r .waiting .arrive .counted
  | refuse {freshId : String} {response : OutboundResponse} :
    g.receive freshId r = .inl response → Advance g r .counted .silent (.refused response)
  | find {freshId : String} {p : Pending} :
    g.receive freshId r = .inr p → Advance g r .counted .silent (.found p)
  | send (p : Pending) : Advance g r (.found p) (.send (g.callOf p)) (.calling p)
  | receive (p : Pending) (result : TargetResult) :
    Advance g r (.calling p) (.receive result) (.called p result)
  | settleRefused (response : OutboundResponse) :
    Advance g r (.refused response) (.settle .unmatched) (.settled .unmatched fun _ => response)
  | settleCalled (p : Pending) (result : TargetResult) :
    Advance g r (.called p result) (.settle (g.complete p 0 result).1)
      (.settled (g.complete p 0 result).1 fun elapsed => (g.complete p elapsed result).2)
  | answer (verdict : Verdict) (reply : Nat → OutboundResponse) (elapsed : Nat) :
    Advance g r (.settled verdict reply) .silent (.answered verdict (reply elapsed))

/-- A gateway at work: its counters, what the target got and gave, and the requests. -/
structure Traffic (n : Nat) where
  counters : Counters
  sent : List (Fin n × TargetRequest)
  answers : List (Fin n × TargetResult)
  phase : Fin n → Phase

namespace Effect

def calls : Effect → List TargetRequest
  | .send call => [call]
  | _ => []

def results : Effect → List TargetResult
  | .receive result => [result]
  | _ => []

def count : Effect → Counters → Counters
  | .arrive, c => c.arrive
  | .settle verdict, c => c.settle verdict
  | _, c => c

end Effect

namespace Traffic

variable {n : Nat}

/-- A new gateway and requests that have not arrived. -/
def start (n : Nat) : Traffic n := ⟨.zero, [], [], fun _ => .waiting⟩

/-- The calls that a request has made, in order. -/
def callsOf (s : Traffic n) (i : Fin n) : List TargetRequest :=
  (s.sent.filter fun entry => entry.1 = i).map Prod.snd

/-- The answers that a request has got, in order. -/
def answersTo (s : Traffic n) (i : Fin n) : List TargetResult :=
  (s.answers.filter fun entry => entry.1 = i).map Prod.snd

/-- Request `i` goes on to another phase. -/
def move (s : Traffic n) (i : Fin n) (effect : Effect) (next : Phase) : Traffic n where
  counters := effect.count s.counters
  sent := s.sent ++ effect.calls.map fun call => (i, call)
  answers := s.answers ++ effect.results.map fun result => (i, result)
  phase := Function.update s.phase i next

/-- Every request has its response. -/
def AtRest (s : Traffic n) : Prop := ∀ i, ∃ verdict response, s.phase i = .answered verdict response

theorem callsOf_move_self (s : Traffic n) (i : Fin n) (effect : Effect) (next : Phase) :
    (s.move i effect next).callsOf i = s.callsOf i ++ effect.calls := by
  cases effect <;> simp [callsOf, move, Effect.calls]

theorem answersTo_move_self (s : Traffic n) (i : Fin n) (effect : Effect) (next : Phase) :
    (s.move i effect next).answersTo i = s.answersTo i ++ effect.results := by
  cases effect <;> simp [answersTo, move, Effect.results]

theorem phase_move_self (s : Traffic n) (i : Fin n) (effect : Effect) (next : Phase) :
    (s.move i effect next).phase i = next := by
  simp [move]

section Others

variable {i j : Fin n} (h : j ≠ i) (s : Traffic n) (effect : Effect) (next : Phase)
include h

theorem callsOf_move_of_ne : (s.move i effect next).callsOf j = s.callsOf j := by
  cases effect <;> simp [callsOf, move, Effect.calls, h.symm]

theorem answersTo_move_of_ne : (s.move i effect next).answersTo j = s.answersTo j := by
  cases effect <;> simp [answersTo, move, Effect.results, h.symm]

theorem phase_move_of_ne : (s.move i effect next).phase j = s.phase j := by
  simp [move, h]

end Others

end Traffic

/-- One step of one of the requests. -/
inductive Step {n : Nat} (g : Gateway) (requests : Fin n → InboundRequest) :
    Traffic n → Traffic n → Prop where
  | move {s : Traffic n} {i : Fin n} {effect : Effect} {next : Phase} :
    Advance g (requests i) (s.phase i) effect next → Step g requests s (s.move i effect next)

/-- The states that a new gateway can come to on these requests. -/
def Reachable {n : Nat} (g : Gateway) (requests : Fin n → InboundRequest) (s : Traffic n) : Prop :=
  Relation.ReflTransGen (Step g requests) (.start n) s

/-- The course of one request on its own: its phase, and the calls and answers so far. -/
inductive Course (g : Gateway) (r : InboundRequest) :
    Phase → List TargetRequest → List TargetResult → Prop where
  | start : Course g r .waiting [] []
  | step {phase next : Phase} {calls : List TargetRequest} {results : List TargetResult}
      {effect : Effect} : Course g r phase calls results → Advance g r phase effect next →
    Course g r next (calls ++ effect.calls) (results ++ effect.results)

/-- Whatever the others do, a request takes a course that it could take alone. -/
theorem course_of_reachable {n : Nat} {g : Gateway} {requests : Fin n → InboundRequest}
    {s : Traffic n} (h : Reachable g requests s) (j : Fin n) :
    Course g (requests j) (s.phase j) (s.callsOf j) (s.answersTo j) := by
  induction h with
  | refl => exact .start
  | @tail s _ _ hstep ih =>
    cases hstep with
    | @move i effect next hadvance =>
      by_cases hj : j = i
      · subst j
        rw [s.callsOf_move_self, s.answersTo_move_self, s.phase_move_self]
        exact .step ih hadvance
      · rw [s.callsOf_move_of_ne hj, s.answersTo_move_of_ne hj, s.phase_move_of_ne hj]
        exact ih

/-! ## Counting -/

namespace Phase

/-- One if the request has been counted on arrival. -/
def arrived : Phase → Nat
  | .waiting => 0
  | _ => 1

/-- One if the request has been counted with this outcome. -/
def settledAs (verdict : Verdict) : Phase → Nat
  | .settled v _ => if v = verdict then 1 else 0
  | .answered v _ => if v = verdict then 1 else 0
  | _ => 0

/-- One if the request has been counted on arrival and its outcome has not. -/
def inFlight : Phase → Nat
  | .counted => 1
  | .refused _ => 1
  | .found _ => 1
  | .calling _ => 1
  | .called _ _ => 1
  | _ => 0

theorem arrived_eq (phase : Phase) :
    phase.arrived = phase.settledAs .mapped + phase.settledAs .targetError +
      phase.settledAs .unmatched + phase.inFlight := by
  cases phase with
  | settled v _ => cases v <;> rfl
  | answered v _ => cases v <;> rfl
  | _ => rfl

end Phase

namespace Counters

/-- The counter of an outcome. -/
def outcome (c : Counters) : Verdict → UInt64
  | .mapped => c.mapped
  | .targetError => c.targetErrors
  | .unmatched => c.unmatched

end Counters

namespace Effect

def arrivals : Effect → Nat
  | .arrive => 1
  | _ => 0

def settlements (verdict : Verdict) : Effect → Nat
  | .settle v => if v = verdict then 1 else 0
  | _ => 0

theorem total_count (effect : Effect) (c : Counters) :
    (effect.count c).total = c.total + UInt64.ofNat effect.arrivals := by
  cases effect with
  | settle v => cases v <;> simp [count, arrivals, Counters.settle]
  | _ => simp [count, arrivals, Counters.arrive]

theorem outcome_count (effect : Effect) (c : Counters) (verdict : Verdict) :
    (effect.count c).outcome verdict =
      c.outcome verdict + UInt64.ofNat (effect.settlements verdict) := by
  cases effect with
  | settle v =>
    cases v <;> cases verdict <;> simp [count, settlements, Counters.settle, Counters.outcome]
  | arrive => cases verdict <;> simp [count, settlements, Counters.arrive, Counters.outcome]
  | _ => simp [count, settlements]

end Effect

namespace Advance

variable {g : Gateway} {r : InboundRequest} {phase next : Phase} {effect : Effect}

theorem arrived_eq (h : Advance g r phase effect next) :
    next.arrived = phase.arrived + effect.arrivals := by
  cases h <;> rfl

theorem settledAs_eq (h : Advance g r phase effect next) (verdict : Verdict) :
    next.settledAs verdict = phase.settledAs verdict + effect.settlements verdict := by
  cases h <;> simp [Phase.settledAs, Effect.settlements]

end Advance

theorem sum_update {n : Nat} {weight : Phase → Nat} {phase : Fin n → Phase} {i : Fin n}
    {next : Phase} {more : Nat} (h : weight next = weight (phase i) + more) :
    ∑ j, weight (Function.update phase i next j) = ∑ j, weight (phase j) + more := by
  have hcomp : (fun j => weight (Function.update phase i next j)) =
      Function.update (fun j => weight (phase j)) i (weight next) := by
    funext j
    exact Function.apply_update (fun _ => weight) phase i next j
  have hsplit := Finset.add_sum_erase Finset.univ (fun j => weight (phase j)) (Finset.mem_univ i)
  rw [hcomp, Finset.sum_update_of_mem (Finset.mem_univ i), Finset.sdiff_singleton_eq_erase, h]
  omega

/-- The counters tell how many requests have arrived and how many have each outcome. -/
theorem counters_of_reachable {n : Nat} {g : Gateway} {requests : Fin n → InboundRequest}
    {s : Traffic n} (h : Reachable g requests s) :
    s.counters.total = UInt64.ofNat (∑ i, (s.phase i).arrived) ∧
      ∀ verdict,
        s.counters.outcome verdict = UInt64.ofNat (∑ i, (s.phase i).settledAs verdict) := by
  induction h with
  | refl =>
    refine ⟨by simp [Traffic.start, Counters.zero, Phase.arrived], ?_⟩
    intro verdict
    cases verdict <;> simp [Traffic.start, Counters.zero, Counters.outcome, Phase.settledAs]
  | @tail s _ _ hstep ih =>
    cases hstep with
    | @move i effect next hadvance =>
      simp only [Traffic.move]
      constructor
      · rw [effect.total_count, ih.1, sum_update hadvance.arrived_eq, UInt64.ofNat_add]
      · intro verdict
        rw [effect.outcome_count, ih.2 verdict, sum_update (hadvance.settledAs_eq verdict),
          UInt64.ofNat_add]

/-! ## Coming to rest -/

namespace Phase

/-- The steps that a request has left at most. -/
def rank : Phase → Nat
  | .waiting => 6
  | .counted => 5
  | .refused _ => 2
  | .found _ => 4
  | .calling _ => 3
  | .called _ _ => 2
  | .settled _ _ => 1
  | .answered _ _ => 0

end Phase

theorem Advance.exists_of_not_answered (g : Gateway) (r : InboundRequest) {phase : Phase}
    (h : ¬ ∃ verdict response, phase = .answered verdict response) :
    ∃ effect next, Advance g r phase effect next ∧ next.rank < phase.rank := by
  cases phase with
  | waiting => exact ⟨_, _, .arrive, by decide⟩
  | counted =>
    cases hr : g.receive "" r with
    | inl response => exact ⟨_, _, .refuse hr, by simp [Phase.rank]⟩
    | inr p => exact ⟨_, _, .find hr, by simp [Phase.rank]⟩
  | refused response => exact ⟨_, _, .settleRefused response, by simp [Phase.rank]⟩
  | found p => exact ⟨_, _, .send p, by simp [Phase.rank]⟩
  | calling p => exact ⟨_, _, .receive p (.error (.timeout "")), by simp [Phase.rank]⟩
  | called p result => exact ⟨_, _, .settleCalled p result, by simp [Phase.rank]⟩
  | settled verdict reply => exact ⟨_, _, .answer verdict reply 0, by simp [Phase.rank]⟩
  | answered verdict response => exact absurd ⟨verdict, response, rfl⟩ h

/-- From every state the gateway can come to rest. -/
theorem exists_atRest {n : Nat} (g : Gateway) (requests : Fin n → InboundRequest) (s : Traffic n) :
    ∃ t, Relation.ReflTransGen (Step g requests) s t ∧ t.AtRest := by
  induction hm : ∑ i, (s.phase i).rank using Nat.strong_induction_on generalizing s with
  | _ m ih =>
    by_cases hrest : s.AtRest
    · exact ⟨s, .refl, hrest⟩
    · obtain ⟨i, hi⟩ := not_forall.mp hrest
      obtain ⟨effect, next, hadvance, hlt⟩ := Advance.exists_of_not_answered g (requests i) hi
      have hsum : ∑ j, ((s.move i effect next).phase j).rank < m := by
        rw [← hm]
        apply Finset.sum_lt_sum
        · intro j _
          by_cases hj : j = i
          · subst j
            rw [s.phase_move_self]
            exact hlt.le
          · rw [s.phase_move_of_ne hj]
        · exact ⟨i, Finset.mem_univ i, by rw [s.phase_move_self]; exact hlt⟩
      obtain ⟨t, ht, hat⟩ := ih _ hsum (s.move i effect next) rfl
      exact ⟨t, .head (.move hadvance) ht, hat⟩

end ApiMapping
