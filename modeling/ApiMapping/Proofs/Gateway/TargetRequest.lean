import ApiMapping.Gateway.Basic

/-!
# The request to a target

A configured header is ignored, sent as it is, left out or sent with the text of a value.
Which of these it is depends on its value and the exchange alone. The default content type
depends on the headers that are sent, not on those that are configured.
-/

namespace ApiMapping

theorem Template.plain?_of_ne_null {v : Json} (hv : v ≠ .null) : plain? v = some v.plainText := by
  cases v with
  | null => exact absurd rfl hv
  | _ => rfl

theorem Json.isNull_iff {v : Json} : v.isNull = true ↔ v = .null := by
  cases v <;> simp [isNull]

namespace Endpoint

open Template

section Headers

variable {plugins : PluginTable} {ctx : Context}

/-! ## One header -/

/-- What a configured value becomes: the text of a header, or nothing. -/
inductive Becomes (plugins : PluginTable) (ctx : Context) : Json → Option String → Prop where
  | ignored {v : Json} (hv : ∀ raw, v ≠ .string raw) : Becomes plugins ctx v none
  | verbatim {raw : String} {error : ExpressionError}
      (hparse : Expression.parse raw = .error error) : Becomes plugins ctx (.string raw) (some raw)
  | dropped {raw : String} {e : Expression} (hparse : Expression.parse raw = .ok e)
      (hnull : e.resolve plugins ctx = .null) : Becomes plugins ctx (.string raw) none
  | resolved {raw : String} {e : Expression} (hparse : Expression.parse raw = .ok e)
      (hvalue : e.resolve plugins ctx ≠ .null) :
      Becomes plugins ctx (.string raw) (some (e.resolve plugins ctx).plainText)

theorem Becomes.header?_eq {v : Json} {text : Option String} (h : Becomes plugins ctx v text)
    (name : String) : header? plugins ctx name v = text.map fun t => (name, t) := by
  cases h with
  | ignored hv =>
    cases v with
    | string raw => exact absurd rfl (hv raw)
    | _ => rfl
  | verbatim hparse => simp only [header?, hparse, Option.map_some]
  | dropped hparse hnull => simp only [header?, hparse, hnull, plain?, Option.map_none]
  | resolved hparse hvalue => simp only [header?, hparse, plain?_of_ne_null hvalue, Option.map_some]

theorem exists_becomes (plugins : PluginTable) (ctx : Context) (v : Json) :
    ∃ text, Becomes plugins ctx v text := by
  cases v with
  | string raw =>
    cases hparse : Expression.parse raw with
    | error error => exact ⟨_, .verbatim hparse⟩
    | ok e =>
      by_cases hnull : e.resolve plugins ctx = .null
      · exact ⟨_, .dropped hparse hnull⟩
      · exact ⟨_, .resolved hparse hnull⟩
  | _ => exact ⟨none, .ignored fun _ => nofun⟩

/-! ## All headers -/

/-- What is sent of the configured headers. Those that become something keep their names
and their order. -/
inductive Sends (plugins : PluginTable) (ctx : Context) :
    List (String × Json) → List (String × String) → Prop where
  | nil : Sends plugins ctx [] []
  | skip {name : String} {v : Json} {configured : List (String × Json)}
      {sent : List (String × String)} (h : Becomes plugins ctx v none)
      (rest : Sends plugins ctx configured sent) : Sends plugins ctx ((name, v) :: configured) sent
  | keep {name text : String} {v : Json} {configured : List (String × Json)}
      {sent : List (String × String)} (h : Becomes plugins ctx v (some text))
      (rest : Sends plugins ctx configured sent) :
      Sends plugins ctx ((name, v) :: configured) ((name, text) :: sent)

variable {configured : List (String × Json)} {sent : List (String × String)}

theorem Sends.eq_filterMap (h : Sends plugins ctx configured sent) :
    sent = configured.filterMap fun (name, value) => header? plugins ctx name value := by
  induction h with
  | nil => rfl
  | skip h rest ih => simpa only [List.filterMap_cons, h.header?_eq, Option.map_none] using ih
  | keep h rest ih => simp only [List.filterMap_cons, h.header?_eq, Option.map_some, ← ih]

theorem exists_sends (plugins : PluginTable) (ctx : Context) (configured : List (String × Json)) :
    ∃ sent, Sends plugins ctx configured sent := by
  induction configured with
  | nil => exact ⟨[], .nil⟩
  | cons header configured ih =>
    obtain ⟨name, v⟩ := header
    obtain ⟨sent, hsent⟩ := ih
    obtain ⟨text | text, hbecomes⟩ := exists_becomes plugins ctx v
    · exact ⟨sent, .skip hbecomes hsent⟩
    · exact ⟨(name, text) :: sent, .keep hbecomes hsent⟩

/-- Nothing else is sent of the same headers. -/
theorem Sends.sends_iff (h : Sends plugins ctx configured sent) {other : List (String × String)} :
    Sends plugins ctx configured other ↔ other = sent := by
  constructor
  · intro hother
    exact hother.eq_filterMap.trans h.eq_filterMap.symm
  · rintro rfl
    exact h

theorem Sends.names_sublist (h : Sends plugins ctx configured sent) :
    (sent.map Prod.fst).Sublist (configured.map Prod.fst) := by
  induction h with
  | nil => exact List.Sublist.slnil
  | skip h rest ih => exact ih.cons _
  | keep h rest ih => exact ih.cons_cons _

end Headers

/-! ## The content type -/

/-- Some header tells the type of the body. -/
def Typed (headers : List (String × String)) : Prop :=
  ∃ h ∈ headers, Text.eqIgnoringAsciiCase h.1 "content-type" = true

theorem namesContentType_iff {headers : List (String × String)} :
    namesContentType headers = true ↔ Typed headers := by
  rw [namesContentType, List.any_eq_true]
  rfl

def jsonType : String × String := ("Content-Type", "application/json")

/-- The default type stands behind the headers if there is a body whose type none of them
tells. -/
def Completed (body : Option ByteArray) (sent headers : List (String × String)) : Prop :=
  body ≠ none ∧ ¬ Typed sent ∧ headers = sent ++ [jsonType] ∨
    (body = none ∨ Typed sent) ∧ headers = sent

section Completed

variable {body : Option ByteArray} {sent headers : List (String × String)}

theorem Completed.typed (h : Completed body sent headers) (hbody : body ≠ none) :
    Typed headers := by
  rcases h with ⟨-, -, rfl⟩ | ⟨hnone | htyped, rfl⟩
  · exact ⟨jsonType, List.mem_append_right sent (List.mem_singleton_self _), by decide⟩
  · exact absurd hnone hbody
  · exact htyped

theorem Completed.names_sublist (h : Completed body sent headers) :
    (headers.map Prod.fst).Sublist (sent.map Prod.fst ++ [jsonType.1]) := by
  rcases h with ⟨-, -, rfl⟩ | ⟨-, rfl⟩
  · simp
  · exact List.sublist_append_left _ _

end Completed

/-! ## The request -/

section TargetRequest

variable {e : Endpoint} {plugins : PluginTable} {ctx : Context}

theorem body_targetRequest_of_null (hnull : e.mapping.request.body = .null) :
    (e.targetRequest plugins ctx).body = none := by
  simp only [targetRequest, Json.isNull_iff.mpr hnull, if_true]

theorem body_targetRequest_of_ne_null (hbody : e.mapping.request.body ≠ .null) :
    (e.targetRequest plugins ctx).body =
      some (fill (resolveLeaf plugins ctx) e.mapping.request.body).text.toUTF8 := by
  simp only [targetRequest, if_neg (mt Json.isNull_iff.mp hbody)]

theorem body_targetRequest_eq_none_iff :
    (e.targetRequest plugins ctx).body = none ↔ e.mapping.request.body = .null := by
  by_cases h : e.mapping.request.body = .null
  · exact iff_of_true (body_targetRequest_of_null h) h
  · rw [body_targetRequest_of_ne_null h]
    exact iff_of_false (Option.some_ne_none _) h

theorem completed_targetRequest {sent : List (String × String)}
    (hsent : Sends plugins ctx e.mapping.target.headers sent) :
    Completed (e.targetRequest plugins ctx).body sent (e.targetRequest plugins ctx).headers := by
  have hheaders : (e.targetRequest plugins ctx).headers =
      if e.mapping.request.body.isNull || namesContentType sent then sent
      else sent ++ [jsonType] := by
    rw [targetRequest, ← hsent.eq_filterMap]
    rfl
  rw [Completed, Ne, body_targetRequest_eq_none_iff, ← Json.isNull_iff, ← namesContentType_iff,
    ← and_assoc, ← not_or, ← Bool.or_eq_true, hheaders]
  split
  · rename_i h
    exact .inr ⟨h, rfl⟩
  · rename_i h
    exact .inl ⟨h, rfl⟩

/-- How a request follows from an endpoint's templates and an exchange. -/
structure Outgoing (e : Endpoint) (plugins : PluginTable) (ctx : Context) (r : TargetRequest) :
    Prop where
  method : r.method = e.mapping.target.method
  headers : ∃ sent, (∀ other, Sends plugins ctx e.mapping.target.headers other ↔ other = sent) ∧
    Completed r.body sent r.headers
  body_eq_none_iff : r.body = none ↔ e.mapping.request.body = .null
  /-- A template that fills to null is sent as null. -/
  body : e.mapping.request.body ≠ .null →
    r.body = some (fill (resolveLeaf plugins ctx) e.mapping.request.body).text.toUTF8
  typed : r.body ≠ none → Typed r.headers
  /-- The names are configured, whatever the exchange is. -/
  names : (r.headers.map Prod.fst).Sublist
    (e.mapping.target.headers.map Prod.fst ++ [jsonType.1])

/-- The headers are those that are sent of the configured ones, and a body comes with its
type. -/
theorem outgoing_targetRequest (e : Endpoint) (plugins : PluginTable) (ctx : Context) :
    Outgoing e plugins ctx (e.targetRequest plugins ctx) := by
  obtain ⟨sent, hsent⟩ := exists_sends plugins ctx e.mapping.target.headers
  have hcompleted := completed_targetRequest hsent
  exact {
    method := rfl
    headers := ⟨sent, fun _ => hsent.sends_iff, hcompleted⟩
    body_eq_none_iff := body_targetRequest_eq_none_iff
    body := body_targetRequest_of_ne_null
    typed := hcompleted.typed
    names := hcompleted.names_sublist.trans (hsent.names_sublist.append_right _) }

end TargetRequest
end Endpoint
end ApiMapping
