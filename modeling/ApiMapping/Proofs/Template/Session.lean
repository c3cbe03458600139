import ApiMapping.Proofs.Exchange.Reading
import ApiMapping.Proofs.Template.Filling
import ApiMapping.Proofs.Template.Resolution
import ApiMapping.Template.Session

/-!
# Sessions

In a session the same context is read, evaluated and answered in any order, and what is found in
its bodies is kept. Every answer is the one that a new context gives, made for the same request
and the response of that moment.
-/

namespace ApiMapping

namespace Template

open Context

theorem Source.gives_evaluate (source : Source) (locator : String) :
    Gives (source.evaluate locator) fun c => source.resolve c locator := by
  cases source with
  | requestBody => exact gives_readRequestJson.map fun v => (v >>= fun v => select v locator).getD .null
  | responseBody => exact gives_readResponseJson.map fun v => (v >>= fun v => select v locator).getD .null
  | _ => exact fun c hc => ⟨rfl, rfl, hc⟩

variable (plugins : PluginTable)

namespace Expression

mutual

theorem gives_evaluate : ∀ e : Expression,
    Gives (e.evaluate plugins) fun c => e.resolve plugins c
  | .read source locator => source.gives_evaluate locator
  | .call name arguments => (gives_evaluateArguments arguments).map (plugins.invoke name)

theorem gives_evaluateArgument : ∀ a : Argument,
    Gives (evaluateArgument plugins a) fun c => resolveArgument plugins c a
  | .literal text => gives_pure (Json.string text)
  | .nested e => gives_evaluate e
  | .malformed _ _ => gives_pure Json.null

theorem gives_evaluateArguments : ∀ arguments : List Argument,
    Gives (evaluateArguments plugins arguments) fun c => resolveArguments plugins c arguments
  | [] => gives_pure []
  | a :: rest =>
    (gives_evaluateArgument a).bind fun v => (gives_evaluateArguments rest).map fun vs => v :: vs

end

end Expression

theorem resolveLeaf_fresh {c : Context} (hc : c.Coherent) :
    resolveLeaf plugins c = resolveLeaf plugins c.fresh := by
  apply resolveLeaf_congr
  intro source locator
  cases source with
  | requestBody =>
    rw [Source.resolve, Source.resolve, requestJson?_of_coherent hc,
      requestJson?_of_coherent (coherent_fresh c)]
    rfl
  | responseBody =>
    rw [Source.resolve, Source.resolve, responseJson?_of_coherent hc,
      responseJson?_of_coherent (coherent_fresh c)]
    rfl
  | _ => rfl

theorem gives_evaluateLeaf (leaf : String) :
    Gives (evaluateLeaf plugins leaf) fun c => resolveLeaf plugins c leaf := by
  unfold evaluateLeaf resolveLeaf
  cases Expression.parse leaf with
  | ok e => exact Expression.gives_evaluate plugins e
  | error _ => exact gives_pure Json.null

mutual

theorem gives_evaluate : ∀ t : Json, Gives (evaluate plugins t) fun c => fill (resolveLeaf plugins c) t
  | .string s => gives_evaluateLeaf plugins s
  | .array items => (gives_evaluateItems items).map Json.array
  | .object members => (gives_evaluateMembers members).map Json.object
  | .null => gives_pure Json.null
  | .bool b => gives_pure (Json.bool b)
  | .number n => gives_pure (Json.number n)

theorem gives_evaluateItems : ∀ items : List Json,
    Gives (evaluateItems plugins items) fun c => fillItems (resolveLeaf plugins c) items
  | [] => gives_pure []
  | .object members :: rest =>
    (gives_evaluateMembers members).bind fun ms =>
      (gives_evaluateItems rest).map fun vs => Json.object ms :: vs
  | .null :: rest | .bool _ :: rest | .number _ :: rest | .string _ :: rest | .array _ :: rest =>
    (gives_evaluateItems rest).map fun vs => _ :: vs

theorem gives_evaluateMembers : ∀ members : List (String × Json),
    Gives (evaluateMembers plugins members) fun c => fillMembers (resolveLeaf plugins c) members
  | [] => gives_pure []
  | (name, value) :: rest =>
    (gives_evaluate value).bind fun v =>
      (gives_evaluateMembers rest).map fun ms => (name, v) :: ms

end

theorem gives_evaluateQuery (members : List (String × Json)) :
    Gives (evaluateQuery plugins members) fun c => fillQuery (resolveLeaf plugins c) members := by
  simp only [fillQuery_eq_filterMap]
  exact (gives_evaluateMembers plugins members).map _

section Coherent

variable {c : Context} (hc : c.Coherent)
include hc

/-- Looking every leaf up in the context gives what evaluation gives. -/
theorem run_evaluate (t : Json) :
    ((evaluate plugins t).run c).1 = fill (resolveLeaf plugins c) t := by
  rw [resolveLeaf_fresh plugins hc]
  exact (gives_evaluate plugins t c hc).1

theorem run_evaluateQuery (members : List (String × Json)) :
    ((evaluateQuery plugins members).run c).1 = fillQuery (resolveLeaf plugins c) members := by
  rw [resolveLeaf_fresh plugins hc]
  exact (gives_evaluateQuery plugins members c hc).1

end Coherent

/-! ## Operations -/

/-- The response that comes with an operation. -/
def Operation.response? : Operation → Option Response
  | .respond response => some response
  | _ => none

section Operation

variable {plugins} {c : Context}

/-- What is no response only reads. -/
theorem Operation.exists_gives_perform {operation : Operation} (h : operation.response? = none) :
    ∃ value, Gives (operation.perform plugins) value := by
  cases operation with
  | readRequest => exact ⟨_, gives_readRequestJson.map Answer.body⟩
  | readResponse => exact ⟨_, gives_readResponseJson.map Answer.body⟩
  | expression e => exact ⟨_, (Expression.gives_evaluate plugins e).map Answer.value⟩
  | leaf text => exact ⟨_, (gives_evaluateLeaf plugins text).map Answer.value⟩
  | template t => exact ⟨_, (gives_evaluate plugins t).map Answer.value⟩
  | query members => exact ⟨_, (gives_evaluateQuery plugins members).map Answer.parameters⟩
  | respond response => cases h

/-- What one operation gives and keeps. -/
theorem Operation.perform_spec (plugins : PluginTable) (operation : Operation) (hc : c.Coherent) :
    ((operation.perform plugins).run c).1 = ((operation.perform plugins).run c.fresh).1 ∧
      ((operation.perform plugins).run c).2.fresh = c.fresh.answered operation.response? ∧
      ((operation.perform plugins).run c).2.Coherent := by
  cases hresponse : operation.response? with
  | none =>
    obtain ⟨value, h⟩ := Operation.exists_gives_perform hresponse
    exact ⟨h.run_fresh hc, (h c hc).2⟩
  | some r =>
    cases operation with
    | respond response =>
      cases hresponse
      exact ⟨rfl, rfl, hc.withResponse _⟩
    | _ => cases hresponse

end Operation

/-! ## Operations in a row -/

/-- The answers to operations on a context. -/
def answers (c : Context) (operations : List Operation) : List Answer :=
  ((session plugins operations).run c).1

section Session

variable {plugins} {c : Context}

/-- The contexts that there are: made new, and then used in any way. -/
inductive Reached : Context → Prop where
  | new (request : Request) (body : ByteArray) (correlationId : String) :
    Reached (.new request body correlationId)
  | perform {c : Context} (h : Reached c) (plugins : PluginTable) (operation : Operation) :
    Reached ((operation.perform plugins).run c).2

theorem coherent_of_reached (h : Reached c) : c.Coherent := by
  induction h with
  | new request body correlationId => exact coherent_new request body correlationId
  | perform _ plugins operation ih => exact (operation.perform_spec plugins ih).2.2

theorem Reached.withResponse (h : Reached c) (r : Response) : Reached (c.withResponse r) :=
  h.perform .empty (.respond r)

end Session

end Template
end ApiMapping
