import ApiMapping.Proofs.Template.Session

/-!
# The footprint of a template

A template depends on the sources that its expressions read, at every depth of their calls, and
on nothing else: contexts that say the same through these sources have the same result.
-/

namespace ApiMapping

namespace Context

/-- Both contexts say the same through a source. -/
def AgreeOn (c c' : Context) : Template.Source → Prop
  | .static => True
  | .query => ∀ name, c.request.parameters.lookup name = c'.request.parameters.lookup name
  | .requestHeader => ∀ name, c.request.headers.lookup name = c'.request.headers.lookup name
  | .responseHeader => ∀ name,
    (c.response >>= fun r => r.headers.lookup name) =
      (c'.response >>= fun r => r.headers.lookup name)
  | .requestBody => c.requestBody = c'.requestBody
  | .responseBody => c.response.map Response.body = c'.response.map Response.body

/-- A response changes nothing about the request. -/
theorem agreeOn_withResponse (c : Context) (r : Response) {source : Template.Source}
    (hheader : source ≠ .responseHeader) (hbody : source ≠ .responseBody) :
    c.AgreeOn (c.withResponse r) source := by
  cases source with
  | static => trivial
  | query => exact fun _ => rfl
  | requestHeader => exact fun _ => rfl
  | responseHeader => exact absurd rfl hheader
  | requestBody => rfl
  | responseBody => exact absurd rfl hbody

end Context

namespace Template

variable {c c' : Context}

theorem Source.resolve_congr_of_agreeOn {source : Source} (hc : c.Coherent) (hc' : c'.Coherent)
    (h : c.AgreeOn c' source) (locator : String) :
    source.resolve c locator = source.resolve c' locator := by
  cases source with
  | static => rfl
  | query =>
    have hname : c.request.parameters.lookup locator = c'.request.parameters.lookup locator :=
      h locator
    rw [resolve, resolve, Context.parameter, Context.parameter, hname]
  | requestHeader =>
    have hname := h (Text.lower locator)
    rw [resolve, resolve, Context.requestHeader, Context.requestHeader, Request.header?,
      Request.header?, Headers.first?, Headers.first?, hname]
  | responseHeader =>
    have hname := h (Text.lower locator)
    have hfirst (ctx : Context) : (ctx.response >>= fun r => r.header? locator) =
        (ctx.response >>= fun r => r.headers.lookup (Text.lower locator)) >>= List.head? := by
      rw [bind_assoc]
      rfl
    rw [resolve, resolve, Context.responseHeader, Context.responseHeader, hfirst, hfirst, hname]
  | requestBody =>
    rw [resolve, resolve, Context.requestJson?_of_coherent hc,
      Context.requestJson?_of_coherent hc', show c.requestBody = c'.requestBody from h]
  | responseBody =>
    have hbody : c.response.map Response.body = c'.response.map Response.body := h
    have hparse (ctx : Context) : (ctx.response >>= fun r => Body.parse r.body) =
        (ctx.response.map Response.body) >>= Body.parse := by
      cases ctx.response <;> rfl
    rw [resolve, resolve, Context.responseJson?_of_coherent hc,
      Context.responseJson?_of_coherent hc', hparse, hparse, hbody]

/-- Some string that is there to be replaced is an expression that reads the source. -/
def Uses (t : Json) (source : Source) : Prop :=
  ∃ path s e, t.at? path = some (.string s) ∧ Interpreted path ∧
    Expression.parse s = .ok e ∧ e.Reads source

variable {plugins : PluginTable} {t : Json}

theorem everyLeaf_of_agreeOn (plugins : PluginTable) (hc : c.Coherent) (hc' : c'.Coherent)
    (h : ∀ source, Uses t source → c.AgreeOn c' source) :
    EveryLeaf (fun s => resolveLeaf plugins c s = resolveLeaf plugins c' s) t := by
  intro path s hs hpath
  unfold resolveLeaf
  cases hparse : Expression.parse s with
  | error _ => rfl
  | ok e =>
    apply Expression.resolve_congr_of_reads
    intro source hreads
    exact Source.resolve_congr_of_agreeOn hc hc' (h source ⟨path, s, e, hs, hpath, hparse, hreads⟩)

/-- The template gives the same in both contexts, by itself and as a template of parameters, and
whether or not what is found on the way is kept. -/
structure SameResults (plugins : PluginTable) (t : Json) (c c' : Context) : Prop where
  filled : fill (resolveLeaf plugins c) t = fill (resolveLeaf plugins c') t
  evaluated : ((evaluate plugins t).run c).1 = ((evaluate plugins t).run c').1
  filledQuery : ∀ members, t = .object members →
    fillQuery (resolveLeaf plugins c) members = fillQuery (resolveLeaf plugins c') members
  evaluatedQuery : ∀ members, t = .object members →
    ((evaluateQuery plugins members).run c).1 = ((evaluateQuery plugins members).run c').1

theorem sameResults_of_agreeOn (hc : c.Coherent) (hc' : c'.Coherent)
    (h : ∀ source, Uses t source → c.AgreeOn c' source) : SameResults plugins t c c' := by
  have hleaves := everyLeaf_of_agreeOn plugins hc hc' h
  have hfilled := fill_congr hleaves
  have hquery : ∀ members, t = .object members →
      fillQuery (resolveLeaf plugins c) members = fillQuery (resolveLeaf plugins c') members := by
    rintro members rfl
    exact fillQuery_congr hleaves
  refine ⟨hfilled, ?_, hquery, ?_⟩
  · rw [run_evaluate plugins hc, run_evaluate plugins hc', hfilled]
  · intro members ht
    rw [run_evaluateQuery plugins hc, run_evaluateQuery plugins hc', hquery members ht]

/-- What a template gives depends on the sources that it uses. -/
structure HasFootprint (plugins : PluginTable) (t : Json) : Prop where
  agree : ∀ c c', Reached c → Reached c' → (∀ source, Uses t source → c.AgreeOn c' source) →
    SameResults plugins t c c'
  /-- A template that uses nothing of a response can be filled before and after it. -/
  unanswered : ¬ Uses t .responseHeader → ¬ Uses t .responseBody →
    ∀ c response, Reached c → SameResults plugins t c (c.withResponse response)

theorem hasFootprint (plugins : PluginTable) (t : Json) : HasFootprint plugins t where
  agree _ _ hc hc' h := sameResults_of_agreeOn (coherent_of_reached hc) (coherent_of_reached hc') h
  unanswered hheader hbody c response hc := by
    have hcoherent := coherent_of_reached hc
    apply sameResults_of_agreeOn hcoherent (hcoherent.withResponse response)
    intro source huses
    apply c.agreeOn_withResponse response
    · rintro rfl
      exact hheader huses
    · rintro rfl
      exact hbody huses

end Template
end ApiMapping
