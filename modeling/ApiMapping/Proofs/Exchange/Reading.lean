import ApiMapping.Exchange.Context

/-!
# Contexts that have been read before

What is found in a body stays with the context until a new response comes. As long as only that
is found which the bodies spell, nobody can tell whether a body has been read before: what a
computation gives, it gives in a fresh context for the same exchange too.
-/

namespace ApiMapping

namespace Context

/-- The same exchange in a context that has not been read. -/
def fresh (c : Context) : Context := { c with requestFound := none, responseFound := none }

/-- The same context with a new response, if there is one. -/
def answered (c : Context) (response : Option Response) : Context :=
  response.elim c c.withResponse

/-- What was found is what the bodies spell. -/
structure Coherent (c : Context) : Prop where
  request : ∀ v, c.requestFound = some v → v = Body.parse c.requestBody
  response : ∀ v, c.responseFound = some v → ∃ r, c.response = some r ∧ v = Body.parse r.body

section Coherent

variable {c : Context}

@[simp] theorem fresh_withResponse (c : Context) (r : Response) :
    (c.withResponse r).fresh = c.fresh.withResponse r := rfl

theorem coherent_fresh (c : Context) : c.fresh.Coherent where
  request _ h := nomatch h
  response _ h := nomatch h

theorem coherent_new (request : Request) (body : ByteArray) (correlationId : String) :
    (new request body correlationId).Coherent :=
  coherent_fresh (new request body correlationId)

/-- What was found of an earlier response does not outlive it. -/
theorem Coherent.withResponse (hc : c.Coherent) (r : Response) : (c.withResponse r).Coherent where
  request := hc.request
  response _ h := nomatch h

theorem Coherent.answered (hc : c.Coherent) (response : Option Response) :
    (c.answered response).Coherent := by
  cases response with
  | none => exact hc
  | some r => exact hc.withResponse r

theorem requestJson?_of_coherent (hc : c.Coherent) :
    c.requestJson? = Body.parse c.requestBody := by
  unfold requestJson?
  cases hfound : c.requestFound with
  | none => rfl
  | some v => exact hc.request v hfound

theorem responseJson?_of_coherent (hc : c.Coherent) :
    c.responseJson? = c.response >>= fun r => Body.parse r.body := by
  unfold responseJson?
  cases hfound : c.responseFound with
  | none => rfl
  | some v =>
    obtain ⟨r, hr, hv⟩ := hc.response v hfound
    rw [hr, hv]
    rfl

end Coherent

/-! ## What a computation gives -/

/-- The computation gives a value that only depends on the exchange, and leaves the exchange
as it is. -/
def Gives {α : Type} (act : Reading α) (value : Context → α) : Prop :=
  ∀ c, c.Coherent →
    (act.run c).1 = value c.fresh ∧ (act.run c).2.fresh = c.fresh ∧ (act.run c).2.Coherent

section Gives

variable {α β : Type} {act : Reading α} {value : Context → α}

theorem gives_pure (a : α) : Gives (pure a) fun _ => a :=
  fun _ hc => ⟨rfl, rfl, hc⟩

theorem Gives.bind {next : α → Reading β} {value' : α → Context → β} (h : Gives act value)
    (hnext : ∀ a, Gives (next a) (value' a)) :
    Gives (act >>= next) fun c => value' (value c) c := by
  intro c hc
  obtain ⟨hvalue, hfresh, hcoherent⟩ := h c hc
  obtain ⟨hvalue', hfresh', hcoherent'⟩ := hnext (act.run c).1 (act.run c).2 hcoherent
  rw [hfresh] at hvalue' hfresh'
  refine ⟨hvalue'.trans ?_, hfresh', hcoherent'⟩
  rw [hvalue]

theorem Gives.map (h : Gives act value) (f : α → β) :
    Gives (do return f (← act)) fun c => f (value c) :=
  h.bind fun a => gives_pure (f a)

/-- It does not matter what has been read before. -/
theorem Gives.run_fresh (h : Gives act value) {c : Context} (hc : c.Coherent) :
    (act.run c).1 = (act.run c.fresh).1 := by
  rw [(h c hc).1, (h c.fresh (coherent_fresh c)).1]
  rfl

end Gives

theorem gives_readRequestJson : Gives readRequestJson fun c => Body.parse c.requestBody := by
  intro c hc
  have hvalue := requestJson?_of_coherent hc
  refine ⟨hvalue, rfl, ?_, hc.response⟩
  intro v hv
  rw [← Option.some.inj hv]
  exact hvalue

theorem run_readResponseJson (c : Context) :
    readResponseJson.run c =
      match c.response with
      | none => (none, c)
      | some _ => (c.responseJson?, { c with responseFound := some c.responseJson? }) := by
  obtain ⟨_, _, response, _, _, _⟩ := c
  cases response <;> rfl

theorem gives_readResponseJson :
    Gives readResponseJson fun c => c.response >>= fun r => Body.parse r.body := by
  intro c hc
  have hvalue := responseJson?_of_coherent hc
  rw [run_readResponseJson]
  cases hresponse : c.response with
  | none => exact ⟨by simp [fresh, hresponse], rfl, hc⟩
  | some r =>
    rw [hresponse] at hvalue
    refine ⟨?_, ?_, hc.request, ?_⟩
    · rw [hvalue, fresh, hresponse]
    · rw [fresh, fresh, hresponse]
    · intro v hv
      refine ⟨r, rfl, ?_⟩
      rw [← Option.some.inj hv]
      exact hvalue

end Context
end ApiMapping
