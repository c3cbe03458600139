import ApiMapping.Proofs.Exchange.Query
import ApiMapping.Proofs.Gateway.Building
import ApiMapping.Proofs.Gateway.Handling
import ApiMapping.Proofs.Text.LetterCase

/-!
# Which endpoint a request finds

The check compares methods in full upper case, the look-up up to the case of ASCII letters.
For methods in upper case both mean equality, so that no request is accepted by two
endpoints of a gateway. The order of the mappings does not matter then, and no mapping
hides another.
-/

namespace ApiMapping

namespace Endpoint

/-- The request that an endpoint claims. -/
def claim (e : Endpoint) : String × String := (e.method, e.mapping.source.url)

theorem claim_of_serves {m : Mapping} {e : Endpoint} (h : Serves m e) : e.claim = m.claim := by
  rw [claim, h.mapping, h.method]
  rfl

theorem accepts_iff {e : Endpoint} {method path : String} :
    e.accepts method path = true ↔
      e.mapping.source.url = path ∧ Text.eqIgnoringAsciiCase e.method method = true := by
  simp [accepts]

/-- Endpoints that accept the same request claim the same. -/
theorem claim_eq_of_accepts {m m' : Mapping} {e e' : Endpoint} (h : Serves m e)
    (h' : Serves m' e') {method path : String} (he : e.accepts method path = true)
    (he' : e'.accepts method path = true) : e.claim = e'.claim := by
  obtain ⟨hurl, hmethod⟩ := accepts_iff.mp he
  obtain ⟨hurl', hmethod'⟩ := accepts_iff.mp he'
  rw [h.method] at hmethod
  rw [h'.method] at hmethod'
  rw [claim, claim, hurl, hurl', h.method, h'.method, Text.upper_eq_of_common hmethod hmethod']

end Endpoint

namespace Gateway

variable {c : Configuration} {plugins : PluginTable} {g : Gateway}

theorem claims_of_serves {ms : List Mapping} {es : List Endpoint}
    (h : List.Forall₂ Endpoint.Serves ms es) : es.map Endpoint.claim = ms.map Mapping.claim := by
  induction h with
  | nil => rfl
  | cons hserves _ ih => rw [List.map_cons, List.map_cons, Endpoint.claim_of_serves hserves, ih]

/-- The endpoints of a gateway differ in what they claim. -/
theorem claims_nodup (h : build c plugins = .ok g) : (g.endpoints.map Endpoint.claim).Nodup := by
  obtain ⟨hvalid, hserves, -⟩ := build_eq_ok_iff.mp h
  rw [claims_of_serves hserves]
  exact (Configuration.validate_eq_ok_iff.mp hvalid).1.2

section Accepting

variable (h : build c plugins = .ok g) {method path : String}
include h

theorem eq_of_accepts {i j : Nat} {e e' : Endpoint} (hi : g.endpoints[i]? = some e)
    (hj : g.endpoints[j]? = some e') (he : e.accepts method path = true)
    (he' : e'.accepts method path = true) : i = j := by
  obtain ⟨-, hserves, -⟩ := build_eq_ok_iff.mp h
  obtain ⟨m, -, hm⟩ := getElem?_of_forall₂ hserves.flip hi
  obtain ⟨m', -, hm'⟩ := getElem?_of_forall₂ hserves.flip hj
  have hclaim : e.claim = e'.claim := Endpoint.claim_eq_of_accepts hm hm' he he'
  have hlt : i < (g.endpoints.map Endpoint.claim).length := by
    rw [List.length_map]
    exact (List.getElem?_eq_some_iff.mp hi).1
  rw [← List.getElem?_inj hlt (claims_nodup h), List.getElem?_map, List.getElem?_map, hi, hj,
    Option.map_some, Option.map_some, hclaim]

theorem find?_eq_some_of_accepts {i : Nat} {e : Endpoint} (hi : g.endpoints[i]? = some e)
    (he : e.accepts method path = true) : g.find? method path = some e := by
  unfold find?
  cases hfound : g.endpoints.find? fun e => e.accepts method path with
  | none =>
    have hrefused := List.find?_eq_none.mp hfound e (List.mem_of_getElem? hi)
    exact absurd he hrefused
  | some e' =>
    obtain ⟨j, hj⟩ := List.mem_iff_getElem?.mp (List.mem_of_find?_eq_some hfound)
    have he' := List.find?_some hfound
    have hij := eq_of_accepts h hi hj he he'
    rw [← hij, hi] at hj
    exact hj.symm

end Accepting

/-- A gateway for the same mappings in another order, which finds the same endpoints. -/
theorem exists_build_perm (h : build c plugins = .ok g) {ms : List Mapping}
    (hms : ms.Perm c.mappings) :
    ∃ g', build { c with mappings := ms } plugins = .ok g' ∧
      ∀ method path, g'.find? method path = g.find? method path := by
  obtain ⟨hvalid, hserves, hsettings, hplugins⟩ := build_eq_ok_iff.mp h
  obtain ⟨es, hes, hperm⟩ := List.perm_comp_forall₂ hms hserves
  have hvalid' := (Configuration.validate_perm hms).mpr hvalid
  refine ⟨{ g with endpoints := es }, ?_, ?_⟩
  · exact build_eq_ok_iff.mpr ⟨hvalid', hes, hsettings, hplugins⟩
  · intro method path
    refine (Keyed.find?_perm hperm.symm ?_).symm
    intro e he e' he' haccepts haccepts'
    obtain ⟨i, hi⟩ := List.mem_iff_getElem?.mp he
    obtain ⟨j, hj⟩ := List.mem_iff_getElem?.mp he'
    have hij := eq_of_accepts h hi hj haccepts haccepts'
    rw [hij, hj] at hi
    exact (Option.some.inj hi).symm

/-- The request is looked up to the endpoint, whose call is made and whose reply is given. -/
def Dispatches (g : Gateway) (r : InboundRequest) (e : Endpoint) : Prop :=
  ∀ (counters : Counters) (freshId : String) (elapsed : Nat) (target : TargetRequest → TargetResult),
    ∃ ctx, g.receive freshId r = .inr ⟨e, ctx⟩ ∧
      let handled := g.handle counters freshId elapsed target r
      let call := e.targetRequest g.plugins ctx
      handled.sent = [call] ∧
        handled.response = (g.complete ⟨e, ctx⟩ elapsed (target call)).2

theorem dispatches_of_find? {r : InboundRequest} {e : Endpoint}
    (h : g.find? r.method (Request.splitUri r.uri).1 = some e) : g.Dispatches r e := by
  intro counters freshId elapsed target
  obtain ⟨ctx, hctx⟩ := g.receive_of_find?_some freshId h
  obtain ⟨hresponse, hsent, -⟩ := g.handle_of_found counters freshId elapsed target hctx
  exact ⟨ctx, hctx, hsent, hresponse⟩

/-- What callers can rely on when they write to a mapping. -/
structure Unambiguous (c : Configuration) (plugins : PluginTable) (g : Gateway) : Prop where
  /-- No request is accepted in two places. -/
  unique : ∀ (method path : String) (i j : Nat) (e e' : Endpoint), g.endpoints[i]? = some e →
    g.endpoints[j]? = some e' → e.accepts method path = true → e'.accepts method path = true →
    i = j
  /-- The mappings may be declared in any order. -/
  ordered : ∀ ms, ms.Perm c.mappings → ∃ g', build { c with mappings := ms } plugins = .ok g' ∧
    ∀ method path, g'.find? method path = g.find? method path
  /-- A mapping gets the requests to its URL, whatever their query is and however their
  method is capitalised. -/
  reached : ∀ (i : Nat) (m : Mapping), c.mappings[i]? = some m →
    Text.IsAscii m.source.method → '?' ∉ m.source.url.toList →
    ∃ e, g.endpoints[i]? = some e ∧ e.mapping = m ∧
      ∀ r : InboundRequest, Text.eqIgnoringAsciiCase r.method m.source.method = true →
        (r.uri = m.source.url ∨ ∃ query, r.uri = m.source.url ++ "?" ++ query) →
        g.Dispatches r e

end Gateway

theorem Request.splitUri_of_query {path query : String} (h : '?' ∉ path.toList) :
    splitUri (path ++ "?" ++ query) = (path, some query) := by
  have huri : path ++ "?" ++ query = String.ofList (path.toList ++ '?' :: query.toList) := by
    apply String.toList_injective
    simp
  rw [huri, splitUri_of_mark h, String.ofList_toList, String.ofList_toList]

namespace Gateway

variable {c : Configuration} {plugins : PluginTable} {g : Gateway}

/-- In a gateway that has been built no mapping shadows another. -/
theorem unambiguous_of_build (h : build c plugins = .ok g) : Unambiguous c plugins g where
  unique _ _ _ _ _ _ hi hj he he' := eq_of_accepts h hi hj he he'
  ordered _ hms := exists_build_perm h hms
  reached i m hi hascii hmark := by
    obtain ⟨-, hserves, -⟩ := build_eq_ok_iff.mp h
    obtain ⟨e, he, hm⟩ := getElem?_of_forall₂ hserves hi
    refine ⟨e, he, hm.mapping, ?_⟩
    intro r hmethod huri
    have hpath : (Request.splitUri r.uri).1 = m.source.url := by
      rcases huri with huri | ⟨query, huri⟩
      · rw [huri, Request.splitUri_of_no_mark hmark]
      · rw [huri, Request.splitUri_of_query hmark]
    have haccepts : e.accepts r.method m.source.url = true := by
      rw [Endpoint.accepts_iff, hm.mapping, hm.method]
      exact ⟨rfl, Text.eqIgnoringAsciiCase_upper hascii hmethod⟩
    apply dispatches_of_find?
    rw [hpath]
    exact find?_eq_some_of_accepts h he haccepts

theorem unambiguous_sample :
    ∃ g, build sampleConfiguration .empty = .ok g ∧ Unambiguous sampleConfiguration .empty g := by
  have hbuild : ∃ g, build sampleConfiguration .empty = .ok g := ⟨_, rfl⟩
  obtain ⟨g, hg⟩ := hbuild
  exact ⟨g, hg, unambiguous_of_build hg⟩

end Gateway
end ApiMapping
