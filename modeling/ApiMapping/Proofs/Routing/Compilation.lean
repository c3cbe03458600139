import ApiMapping.Proofs.Config.Validation
import ApiMapping.Proofs.Keyed
import ApiMapping.Routing.Basic
import Mathlib.Data.List.Perm.Basic

/-!
# Routers of checked mappings

A mapping that passes the check has a router. The router answers by the section that the
mapping's strategy selects and by nothing else: neither the other section nor the order in
which the replies by status happen to be listed has any part in it.
-/

namespace ApiMapping

/-! ## Keys of statuses -/

/-- The key of a status, its shortest spelling. -/
def statusKey (code : UInt16) : String := String.ofList (Text.ofNat code.toNat)

theorem Text.lt_of_unsigned? {limit n : Nat} {cs : List Char} (h : unsigned? limit cs = some n) :
    n < limit := by
  have hlt := (Option.filter_eq_some_iff.mp h).2
  exact of_decide_eq_true hlt

/-- No other key than its own stands for a status. -/
theorem eq_statusKey_of_statusOfKey? {key : String} {code : UInt16}
    (h : statusOfKey? key = some code) : key = statusKey code ∧ isReplyStatus code = true := by
  unfold statusOfKey? at h
  split at h
  · rename_i n hn
    have hcode : (UInt16.ofNat n).toNat = n := UInt16.toNat_ofNat_of_lt' (Text.lt_of_unsigned? hn)
    dsimp only at h
    split at h
    · rename_i hkey
      rw [Bool.and_eq_true, decide_eq_true_eq] at hkey
      obtain ⟨hdigits, hstatus⟩ := hkey
      cases h
      rw [statusKey, hcode, hdigits, String.ofList_toList]
      exact ⟨rfl, hstatus⟩
    · cases h
  · cases h

/-- The same replies under the same keys, listed in another order. As in every map, no key is
repeated. -/
structure StatusSection.Relisted (s s' : StatusSection) : Prop where
  fallback : s'.fallback = s.fallback
  custom : s.custom.Perm s'.custom
  keys : (s.custom.map Prod.fst).Nodup

namespace Mapping

/-- The mapping with another section for statuses, or none. -/
def withByStatus (m : Mapping) (other : Option StatusSection) : Mapping :=
  { m with response := { m.response with byStatus := other } }

/-- The mapping with another section for bodies, or none. -/
def withByBody (m : Mapping) (other : Option BodySection) : Mapping :=
  { m with response := { m.response with byBody := other } }

/-- The same mapping with another section, or none, where its strategy does not look. -/
inductive Unselected (m : Mapping) : Mapping → Prop where
  | byBody (other : Option BodySection) : m.strategy = .byStatus → Unselected m (m.withByBody other)
  | byStatus (other : Option StatusSection) : m.strategy = .byBody →
    Unselected m (m.withByStatus other)

/-- The same mapping, its replies by status listed in another order. -/
inductive Relisted (m : Mapping) : Mapping → Prop where
  | same : Relisted m m
  | byStatus {s s' : StatusSection} : m.response.byStatus = some s → s.Relisted s' →
    Relisted m (m.withByStatus (some s'))

theorem Relisted.symm {m m' : Mapping} (h : m.Relisted m') : m'.Relisted m := by
  cases h with
  | same => exact .same
  | @byStatus s s' hs hrelisted =>
    have hback : s'.Relisted s :=
      ⟨hrelisted.fallback.symm, hrelisted.custom.symm,
        (hrelisted.custom.map Prod.fst).nodup_iff.mp hrelisted.keys⟩
    have hm : (m.withByStatus (some s')).withByStatus (some s) = m := by
      rw [← hs]
      rfl
    have hrelisted' := Relisted.byStatus (m := m.withByStatus (some s')) rfl hback
    rwa [hm] at hrelisted'

/-- How many replies by status, or rules, the selected section declares. -/
def declared? (m : Mapping) : Option Nat :=
  match m.strategy with
  | .byStatus => m.response.byStatus.map fun s => s.custom.length
  | .byBody => m.response.byBody.map fun s => s.rules.length

variable {m m' : Mapping}

theorem check_unselected (h : m.Unselected m') : m'.check = m.check := by
  have hsection : m'.checkSection = m.checkSection := by
    cases h with
    | byBody other hstrategy =>
      have hstrategy' : (m.withByBody other).strategy = .byStatus := hstrategy
      rw [checkSection_of_byStatus hstrategy, checkSection_of_byStatus hstrategy']
      rfl
    | byStatus other hstrategy =>
      have hstrategy' : (m.withByStatus other).strategy = .byBody := hstrategy
      rw [checkSection_of_byBody hstrategy, checkSection_of_byBody hstrategy']
      rfl
  have htexts : m'.checkTexts = m.checkTexts := by cases h <;> rfl
  rw [check, check, htexts, hsection]

theorem checkStatusSection_relisted {s s' : StatusSection} (h : s.Relisted s') :
    m'.checkStatusSection s' = .ok () ↔ m.checkStatusSection s = .ok () := by
  rw [checkStatusSection_eq_ok_iff, checkStatusSection_eq_ok_iff, h.fallback]
  simp only [h.custom.mem_iff]

theorem check_relisted (h : m.Relisted m') : m'.check = .ok () ↔ m.check = .ok () := by
  cases h with
  | same => rfl
  | @byStatus s s' hs hrelisted =>
    have hsection : (m.withByStatus (some s')).checkSection = .ok () ↔ m.checkSection = .ok () := by
      cases hstrategy : m.strategy with
      | byStatus =>
        have hstrategy' : (m.withByStatus (some s')).strategy = .byStatus := hstrategy
        rw [checkSection_of_byStatus hstrategy, checkSection_of_byStatus hstrategy', hs]
        exact checkStatusSection_relisted hrelisted
      | byBody =>
        have hstrategy' : (m.withByStatus (some s')).strategy = .byBody := hstrategy
        rw [checkSection_of_byBody hstrategy, checkSection_of_byBody hstrategy']
        rfl
    rw [check_eq_ok_iff, check_eq_ok_iff, hsection]
    rfl

end Mapping

namespace Routing

/-! ## Replies by status -/

/-- How an entry of a section stands in the router. -/
def Recodes (entry : String × Reply) (coded : UInt16 × Reply) : Prop :=
  statusOfKey? entry.1 = some coded.1 ∧ entry.2 = coded.2

section Recoded

variable {entries : List (String × Reply)} {coded : List (UInt16 × Reply)}
  (h : List.Forall₂ Recodes entries coded)
include h

theorem keys_of_recoded : (coded.map Prod.fst).map statusKey = entries.map Prod.fst := by
  induction h with
  | nil => rfl
  | cons hentry _ ih =>
    rw [List.map_cons, List.map_cons, List.map_cons, ih,
      (eq_statusKey_of_statusOfKey? hentry.1).1]

/-- Different keys stand for different statuses. -/
theorem nodup_of_recoded (hkeys : (entries.map Prod.fst).Nodup) : (coded.map Prod.fst).Nodup := by
  rw [← keys_of_recoded h] at hkeys
  exact hkeys.of_map statusKey

end Recoded

namespace StatusRouter

variable {m m' : Mapping} {s s' : StatusSection} {r r' : StatusRouter}

theorem compile_eq_ok_iff :
    compile m s = .ok r ↔ s.fallback = r.fallback ∧ List.Forall₂ Recodes s.custom r.custom := by
  obtain ⟨fallback, custom⟩ := r
  have hentry (entry : String × Reply) (coded : UInt16 × Reply) :
      (do let code ← m.checkKey entry.1
          return (code, entry.2)) = Except.ok coded ↔ Recodes entry coded := by
    obtain ⟨code, reply⟩ := coded
    simp [bind_eq_ok_iff, Mapping.checkKey_eq_ok_iff, pure, Except.pure, Recodes]
  unfold compile
  rw [bind_eq_ok_iff]
  simp only [mapM_eq_ok_iff, hentry]
  simp only [pure, Except.pure, Except.ok.injEq, mk.injEq]
  constructor
  · rintro ⟨coded, hcoded, hfallback, rfl⟩
    exact ⟨hfallback, hcoded⟩
  · rintro ⟨hfallback, hcoded⟩
    exact ⟨custom, hcoded, hfallback, rfl⟩

theorem exists_compile_iff :
    (∃ r, compile m s = .ok r) ↔ ∀ entry ∈ s.custom, ∃ code, statusOfKey? entry.1 = some code := by
  constructor
  · rintro ⟨r, hr⟩ entry hentry
    obtain ⟨i, hi⟩ := List.mem_iff_getElem?.mp hentry
    obtain ⟨coded, -, hcode, -⟩ := getElem?_of_forall₂ (compile_eq_ok_iff.mp hr).2 hi
    exact ⟨coded.1, hcode⟩
  · intro hkeys
    have hrecodes : ∀ entry ∈ s.custom, ∃ coded, Recodes entry coded := by
      intro entry hentry
      obtain ⟨code, hcode⟩ := hkeys entry hentry
      exact ⟨(code, entry.2), hcode, rfl⟩
    obtain ⟨custom, hcustom⟩ := exists_forall₂ hrecodes
    exact ⟨⟨s.fallback, custom⟩, compile_eq_ok_iff.mpr ⟨rfl, hcustom⟩⟩

theorem exists_compile_of_check (h : m.checkStatusSection s = .ok ()) :
    ∃ r, compile m s = .ok r := by
  have hkeys := (Mapping.checkStatusSection_eq_ok_iff.mp h).2
  exact exists_compile_iff.mpr fun entry hentry => (hkeys entry hentry).1

/-- Listed in another order, the replies make the same router up to that order. -/
theorem exists_compile_relisted (h : s.Relisted s') (hr : compile m s = .ok r) :
    ∃ r', compile m' s' = .ok r' ∧ r'.fallback = r.fallback ∧ r.custom.Perm r'.custom := by
  obtain ⟨hfallback, hcoded⟩ := compile_eq_ok_iff.mp hr
  obtain ⟨coded, hcoded', hperm⟩ := List.perm_comp_forall₂ h.custom.symm hcoded
  refine ⟨⟨r.fallback, coded⟩, ?_, rfl, hperm.symm⟩
  exact compile_eq_ok_iff.mpr ⟨h.fallback.trans hfallback, hcoded'⟩

theorem route_relisted (hfallback : r'.fallback = r.fallback) (hcustom : r.custom.Perm r'.custom)
    (hcodes : (r.custom.map Prod.fst).Nodup) (status : UInt16) :
    r'.route status = r.route status := by
  rw [route, route, Keyed.lookup_perm hcustom hcodes, hfallback]

end StatusRouter

/-! ## Routers -/

namespace Router

/-- What a router is made from. -/
inductive CompiledFrom (m : Mapping) : Router → Prop where
  | byStatus {s : StatusSection} {r : StatusRouter} : m.strategy = .byStatus →
    m.response.byStatus = some s → StatusRouter.compile m s = .ok r →
    CompiledFrom m (.byStatus r)
  | byBody {s : BodySection} : m.strategy = .byBody → m.response.byBody = some s →
    CompiledFrom m (.byBody (.compile s))

variable {m m' : Mapping} {router router' : Router}

theorem compile_of_byStatus (h : m.strategy = .byStatus) :
    compile m = match m.response.byStatus with
      | some s => byStatus <$> StatusRouter.compile m s
      | none => .error (.missingRouting m.name .byStatus) := by
  unfold compile
  rw [h]
  cases m.response.byStatus <;> rfl

theorem compile_of_byBody (h : m.strategy = .byBody) :
    compile m = match m.response.byBody with
      | some s => .ok (byBody (.compile s))
      | none => .error (.missingRouting m.name .byBody) := by
  unfold compile
  rw [h]
  cases m.response.byBody <;> rfl

theorem compile_eq_ok_iff : compile m = .ok router ↔ CompiledFrom m router := by
  constructor
  · intro h
    unfold compile at h
    split at h
    · rename_i s hstrategy hsection
      obtain ⟨r, hr, rfl⟩ := map_eq_ok_iff.mp h
      exact .byStatus hstrategy hsection hr
    · rename_i s hstrategy hsection
      cases h
      exact .byBody hstrategy hsection
    · cases h
  · intro h
    cases h with
    | byStatus hstrategy hsection hr =>
      rw [compile_of_byStatus hstrategy, hsection]
      exact map_eq_ok_iff.mpr ⟨_, hr, rfl⟩
    | byBody hstrategy hsection => rw [compile_of_byBody hstrategy, hsection]

/-- What the check has let through has a router. -/
theorem exists_compile_of_check (h : m.check = .ok ()) : ∃ router, compile m = .ok router := by
  cases Mapping.sectionPasses_of_checkSection (Mapping.check_eq_ok_iff.mp h).2 with
  | byStatus hstrategy hsection hpasses =>
    obtain ⟨r, hr⟩ := StatusRouter.exists_compile_of_check hpasses
    exact ⟨.byStatus r, compile_eq_ok_iff.mpr (.byStatus hstrategy hsection hr)⟩
  | byBody hstrategy hsection _ =>
    exact ⟨_, compile_eq_ok_iff.mpr (.byBody hstrategy hsection)⟩

theorem strategy_of_compile (h : compile m = .ok router) : router.strategy = m.strategy := by
  cases compile_eq_ok_iff.mp h with
  | byStatus hstrategy _ _ => exact hstrategy.symm
  | byBody hstrategy _ => exact hstrategy.symm

theorem declared?_of_compile (h : compile m = .ok router) : m.declared? = some router.size := by
  cases compile_eq_ok_iff.mp h with
  | byStatus hstrategy hsection hr =>
    have hlength := (StatusRouter.compile_eq_ok_iff.mp hr).2.length_eq
    simp only [Mapping.declared?, hstrategy, hsection, Option.map_some, hlength]
    rfl
  | byBody hstrategy hsection =>
    simp only [Mapping.declared?, hstrategy, hsection, Option.map_some]
    rfl

theorem compile_unselected (h : m.Unselected m') : compile m' = compile m := by
  cases h with
  | byBody other hstrategy =>
    have hstrategy' : (m.withByBody other).strategy = .byStatus := hstrategy
    rw [compile_of_byStatus hstrategy, compile_of_byStatus hstrategy']
    rfl
  | byStatus other hstrategy =>
    have hstrategy' : (m.withByStatus other).strategy = .byBody := hstrategy
    rw [compile_of_byBody hstrategy, compile_of_byBody hstrategy']
    rfl

/-- Two routers that give the same outcome for every answer. -/
def RoutesAlike (router router' : Router) : Prop :=
  router'.strategy = router.strategy ∧ router'.size = router.size ∧
    ∀ status body, router'.route status body = router.route status body

theorem RoutesAlike.refl (router : Router) : RoutesAlike router router := ⟨rfl, rfl, fun _ _ => rfl⟩

/-- Listing the replies in another order keeps the router that there was. -/
theorem exists_compile_relisted (h : m.Relisted m') (hrouter : compile m = .ok router) :
    ∃ router', compile m' = .ok router' ∧ router.RoutesAlike router' := by
  cases h with
  | same => exact ⟨router, hrouter, .refl router⟩
  | @byStatus s s' hs hrelisted =>
    cases compile_eq_ok_iff.mp hrouter with
    | @byStatus _ r hstrategy hsection hr =>
      rw [hs, Option.some.injEq] at hsection
      subst hsection
      obtain ⟨r', hr', hfallback, hcustom⟩ :=
        StatusRouter.exists_compile_relisted hrelisted hr
      have hcodes := nodup_of_recoded (StatusRouter.compile_eq_ok_iff.mp hr).2 hrelisted.keys
      refine ⟨.byStatus r', compile_eq_ok_iff.mpr (.byStatus hstrategy rfl hr'), rfl, ?_, ?_⟩
      · exact hcustom.length_eq.symm
      · intro status body
        exact StatusRouter.route_relisted hfallback hcustom hcodes status
    | byBody hstrategy hsection =>
      exact ⟨_, compile_eq_ok_iff.mpr (.byBody hstrategy hsection), .refl _⟩

end Router

end Routing
end ApiMapping
