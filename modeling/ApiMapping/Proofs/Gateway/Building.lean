import ApiMapping.Gateway.Basic
import ApiMapping.Proofs.Routing.Compilation

/-!
# Gateways and their configurations

A gateway is built from exactly the configurations that pass the check. It has one endpoint
for each mapping, in their order, whose router answers by the section that the mapping's
strategy selects.
-/

namespace ApiMapping

open Routing

/-- The endpoint is made from the mapping. -/
structure Endpoint.Serves (m : Mapping) (e : Endpoint) : Prop where
  mapping : e.mapping = m
  method : e.method = Text.upper m.source.method
  router : Router.compile m = .ok e.router

theorem Endpoint.compile_eq_ok_iff {m : Mapping} {e : Endpoint} :
    compile m = .ok e ↔ Serves m e := by
  unfold compile
  rw [bind_eq_ok_iff]
  constructor
  · rintro ⟨router, hrouter, he⟩
    cases he
    exact ⟨rfl, rfl, hrouter⟩
  · rintro ⟨rfl, hmethod, hrouter⟩
    refine ⟨e.router, hrouter, ?_⟩
    rw [← hmethod]
    rfl

theorem Endpoint.exists_compile_of_check {m : Mapping} (h : m.check = .ok ()) :
    ∃ e, compile m = .ok e := by
  obtain ⟨router, hrouter⟩ := Router.exists_compile_of_check h
  exact ⟨⟨m, Text.upper m.source.method, router⟩, compile_eq_ok_iff.mpr ⟨rfl, rfl, hrouter⟩⟩

theorem Configuration.endpoints_eq_ok_iff {c : Configuration} {es : List Endpoint} :
    c.endpoints = .ok es ↔ c.validate = .ok () ∧ List.Forall₂ Endpoint.Serves c.mappings es := by
  unfold endpoints
  rw [andThen_eq_ok_iff, mapM_eq_ok_iff]
  simp only [Endpoint.compile_eq_ok_iff]

namespace Gateway

variable {c : Configuration} {plugins : PluginTable} {g : Gateway}

theorem build_eq_ok_iff :
    build c plugins = .ok g ↔
      c.validate = .ok () ∧ List.Forall₂ Endpoint.Serves c.mappings g.endpoints ∧
        g.settings = c.settings ∧ g.plugins = plugins.bindAll c.plugins := by
  unfold build
  rw [bind_eq_ok_iff]
  constructor
  · rintro ⟨endpoints, hendpoints, hg⟩
    obtain ⟨hvalid, hserves⟩ := Configuration.endpoints_eq_ok_iff.mp hendpoints
    cases hg
    exact ⟨hvalid, hserves, rfl, rfl⟩
  · rintro ⟨hvalid, hserves, hsettings, hplugins⟩
    refine ⟨g.endpoints, Configuration.endpoints_eq_ok_iff.mpr ⟨hvalid, hserves⟩, ?_⟩
    rw [← hsettings, ← hplugins]
    rfl

/-- Whatever passes the check is built. -/
theorem exists_build (h : c.validate = .ok ()) (plugins : PluginTable) :
    ∃ g, build c plugins = .ok g := by
  have hchecks := (Configuration.validate_eq_ok_iff.mp h).1.1
  have hendpoints : ∃ es, c.endpoints = .ok es := by
    obtain ⟨es, hes⟩ := exists_mapM_eq_ok fun m hm => Endpoint.exists_compile_of_check (hchecks m hm)
    exact ⟨es, andThen_eq_ok_iff.mpr ⟨h, hes⟩⟩
  obtain ⟨es, hes⟩ := hendpoints
  exact ⟨_, bind_eq_ok_iff.mpr ⟨es, hes, rfl⟩⟩

/-- Building has no failure of its own. -/
theorem build_verdict (c : Configuration) (plugins : PluginTable) :
    (build c plugins).map (fun _ => ()) = c.validate := by
  cases hvalid : c.validate with
  | ok _ =>
    obtain ⟨g, hg⟩ := exists_build hvalid plugins
    rw [hg]
    rfl
  | error e =>
    unfold build Configuration.endpoints
    rw [hvalid]
    rfl

end Gateway

/-! ## What a configuration leaves open -/

namespace Configuration

variable {ms ms' : List Mapping}

theorem checkMappings_unselected (h : List.Forall₂ Mapping.Unselected ms ms')
    (claimed : List (String × String)) : checkMappings claimed ms' = checkMappings claimed ms := by
  induction h generalizing claimed with
  | nil => rfl
  | @cons m m' _ _ hm _ ih =>
    have hclaim : m'.claim = m.claim := by cases hm <;> rfl
    rw [checkMappings, checkMappings, Mapping.check_unselected hm, hclaim, ih]

theorem checks_relisted (h : List.Forall₂ Mapping.Relisted ms ms') :
    (∀ m ∈ ms', m.check = .ok ()) ↔ ∀ m ∈ ms, m.check = .ok () := by
  induction h with
  | nil => rfl
  | cons hm _ ih => rw [List.forall_mem_cons, List.forall_mem_cons, Mapping.check_relisted hm, ih]

theorem claims_relisted (h : List.Forall₂ Mapping.Relisted ms ms') :
    ms'.map Mapping.claim = ms.map Mapping.claim := by
  induction h with
  | nil => rfl
  | @cons m m' _ _ hm _ ih =>
    have hclaim : m'.claim = m.claim := by cases hm <;> rfl
    rw [List.map_cons, List.map_cons, hclaim, ih]

end Configuration

/-- The endpoint stands for the mapping: its router is of the mapping's strategy and has all
that the selected section declares. -/
structure Endpoint.StandsFor (m : Mapping) (e : Endpoint) : Prop extends Serves m e where
  strategy : e.router.strategy = m.strategy
  declared : m.declared? = some e.router.size
  /-- Different keys make different statuses, so that no reply replaces another. -/
  codes : ∀ r s, e.router = .byStatus r → m.response.byStatus = some s →
    (s.custom.map Prod.fst).Nodup → (r.custom.map Prod.fst).Nodup

/-- The two mappings compile or fail alike, and their routers give the same outcomes. -/
def Mapping.CompileAlike (m m' : Mapping) : Prop :=
  ((∃ router, Router.compile m = .ok router) ↔ ∃ router, Router.compile m' = .ok router) ∧
    ∀ router router', Router.compile m = .ok router → Router.compile m' = .ok router' →
      router.RoutesAlike router'

namespace Gateway

/-- What the check of a configuration says about the gateway that is built from it. -/
structure Checked (c : Configuration) (plugins : PluginTable) : Prop where
  /-- A gateway is built if the check passes, and otherwise there is the check's error. -/
  verdict : (build c plugins).map (fun _ => ()) = c.validate
  /-- Once the check has passed, no router fails. -/
  compiles : c.validate = .ok () → ∀ m ∈ c.mappings, ∃ router, Router.compile m = .ok router
  /-- The endpoints are those of the mappings, one for one and in order. -/
  endpoints : ∀ g, build c plugins = .ok g →
    List.Forall₂ Endpoint.StandsFor c.mappings g.endpoints
  /-- Sections that no strategy selects may be anything. -/
  unselected : ∀ ms, List.Forall₂ Mapping.Unselected c.mappings ms →
    { c with mappings := ms }.validate = c.validate ∧
      List.Forall₂ (fun m m' => Router.compile m' = Router.compile m) c.mappings ms
  /-- Replies by status may be listed in any order. -/
  relisted : ∀ ms, List.Forall₂ Mapping.Relisted c.mappings ms →
    ({ c with mappings := ms }.validate = .ok () ↔ c.validate = .ok ()) ∧
      List.Forall₂ Mapping.CompileAlike c.mappings ms

end Gateway

theorem Endpoint.standsFor_of_serves {m : Mapping} {e : Endpoint} (h : Serves m e) :
    StandsFor m e where
  toServes := h
  strategy := Router.strategy_of_compile h.router
  declared := Router.declared?_of_compile h.router
  codes r s hr hs hkeys := by
    have hcompile := h.router
    rw [hr] at hcompile
    cases Router.compile_eq_ok_iff.mp hcompile with
    | byStatus _ hsection hcoded =>
      rw [hs, Option.some.injEq] at hsection
      subst hsection
      exact nodup_of_recoded (StatusRouter.compile_eq_ok_iff.mp hcoded).2 hkeys

theorem Mapping.compileAlike_of_relisted {m m' : Mapping} (h : m.Relisted m') :
    m.CompileAlike m' := by
  refine ⟨⟨?_, ?_⟩, ?_⟩
  · rintro ⟨router, hrouter⟩
    obtain ⟨router', hrouter', -⟩ := Router.exists_compile_relisted h hrouter
    exact ⟨router', hrouter'⟩
  · rintro ⟨router', hrouter'⟩
    obtain ⟨router, hrouter, -⟩ := Router.exists_compile_relisted h.symm hrouter'
    exact ⟨router, hrouter⟩
  · intro router router' hrouter hrouter'
    obtain ⟨router'', hrouter'', halike⟩ := Router.exists_compile_relisted h hrouter
    rw [hrouter', Except.ok.injEq] at hrouter''
    rwa [hrouter'']

namespace Gateway

/-- The check decides alone whether a gateway is built, and the gateway has what the checked
configuration declares. -/
theorem checked_build (c : Configuration) (plugins : PluginTable) : Checked c plugins where
  verdict := build_verdict c plugins
  compiles hvalid m hm := by
    have hchecks := (Configuration.validate_eq_ok_iff.mp hvalid).1.1
    exact Router.exists_compile_of_check (hchecks m hm)
  endpoints g hg := by
    obtain ⟨-, hserves, -⟩ := build_eq_ok_iff.mp hg
    exact hserves.imp fun _ _ h => Endpoint.standsFor_of_serves h
  unselected ms hms := by
    constructor
    · rw [Configuration.validate, Configuration.validate,
        Configuration.checkMappings_unselected hms]
    · exact hms.imp fun _ _ h => Router.compile_unselected h
  relisted ms hms := by
    constructor
    · rw [Configuration.validate_eq_ok_iff, Configuration.validate_eq_ok_iff,
        Configuration.checks_relisted hms, Configuration.claims_relisted hms]
    · exact hms.imp fun _ _ h => Mapping.compileAlike_of_relisted h

end Gateway

/-- One URL with two methods, a mapping for each, and a strategy for each. -/
def sampleConfiguration : Configuration := { Configuration.default with
  mappings := [
    { name := "read"
      strategy := .byStatus
      source := ⟨"/users", "get"⟩
      target := ⟨"http://t/", "GET", []⟩
      request := ⟨[], .null⟩
      response := ⟨some ⟨⟨502, .null⟩, [("404", ⟨200, .null⟩)]⟩, none⟩ },
    { name := "write"
      strategy := .byBody
      source := ⟨"/users", "POST"⟩
      target := ⟨"http://t/", "POST", []⟩
      request := ⟨[], .null⟩
      response := ⟨none, some ⟨⟨200, .bool true⟩, [⟨"code", [⟨["20005"], ⟨409, .null⟩⟩]⟩]⟩⟩ }] }

end ApiMapping
