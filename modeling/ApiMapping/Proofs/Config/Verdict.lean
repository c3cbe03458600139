import ApiMapping.Proofs.Config.Faults

/-!
# What the check of a configuration reports

A configuration passes the check exactly if it is sound, and otherwise the error belongs to
its first entry that offends, whatever comes behind that entry. Only which of several bad
replies by status is named hangs on the order in which they are listed.
-/

namespace ApiMapping

/-! ## The lists of a configuration -/

namespace Mapping

/-- Mappings are sound each, and no two of them claim the same request. -/
def rules : Rules Mapping (String × String) ConfigError where
  key := claim
  Sound := Sound
  Fault := Fault
  repeated m := .duplicateSource (Text.upper m.source.method) m.source.url

theorem rules_consistent : rules.Consistent := fun _ _ h => h.not_fault

theorem rules_passedBy : rules.PassedBy check Configuration.checkMappings where
  sound _ := check_eq_ok_iff_sound.mp
  fault _ _ := fault_of_check
  nil _ := rfl
  cons _ _ _ := rfl

theorem alike_of_relisted {m m' : Mapping} (h : m.Relisted m') : rules.Alike m m' where
  key := by cases h <;> rfl
  sound := by
    change m'.Sound ↔ m.Sound
    rw [← check_eq_ok_iff_sound, ← check_eq_ok_iff_sound, check_relisted h]
  fault _ := ⟨.of_relisted h.symm, .of_relisted h⟩
  repeated := by cases h <;> rfl

end Mapping

namespace PluginBinding

/-- Plugins are sound each, and no two of them have the same name. -/
def rules : Rules PluginBinding String ConfigError where
  key := name
  Sound := Sound
  Fault := Fault
  repeated p := .duplicatePlugin p.name

theorem rules_passedBy : rules.PassedBy check Configuration.checkPlugins where
  sound _ := check_eq_ok_iff_sound.mp
  fault _ _ := fault_of_check
  nil _ := rfl
  cons _ _ _ := rfl

theorem rules_consistent : rules.Consistent := fun _ _ h => h.not_fault

end PluginBinding

/-! ## The whole configuration -/

namespace Configuration

structure Sound (c : Configuration) : Prop where
  mappings : ∀ m ∈ c.mappings, m.Sound
  /-- Methods are compared in upper case. -/
  claims : c.mappings.Pairwise fun m m' =>
    ¬ (m.source.url = m'.source.url ∧ Text.upper m.source.method = Text.upper m'.source.method)
  plugins : ∀ p ∈ c.plugins, p.Sound
  names : c.plugins.Pairwise fun p p' => p.name ≠ p'.name

/-- An entry of a configuration, by its place among those of its kind. -/
inductive Place where
  | mapping (i : Nat)
  | plugin (i : Nat)
deriving DecidableEq, Repr

/-- The entry at the place is the first that offends, and the error is about it. Mappings come
before plugins. -/
inductive Offends (c : Configuration) : Place → ConfigError → Prop where
  | mapping {i : Nat} {e : ConfigError} : Mapping.rules.Offends c.mappings i e →
    Offends c (.mapping i) e
  | plugin {i : Nat} {e : ConfigError} : Mapping.rules.Met c.mappings →
    PluginBinding.rules.Offends c.plugins i e → Offends c (.plugin i) e

variable {c : Configuration} {e e' : ConfigError} {place place' : Place}

theorem checkMappings_eq_ok_iff_met {ms : List Mapping} :
    checkMappings [] ms = .ok () ↔ Mapping.rules.Met ms := by
  rw [checkMappings_eq_ok_iff, Rules.met_iff]
  simp only [Mapping.check_eq_ok_iff_sound, List.not_mem_nil, not_false_eq_true, implies_true,
    and_true]
  rfl

theorem checkPlugins_eq_ok_iff_met {ps : List PluginBinding} :
    checkPlugins [] ps = .ok () ↔ PluginBinding.rules.Met ps := by
  rw [checkPlugins_eq_ok_iff, Rules.met_iff]
  simp only [PluginBinding.check_eq_ok_iff_sound, List.not_mem_nil, not_false_eq_true,
    implies_true, and_true]
  rfl

theorem sound_iff_met :
    c.Sound ↔ Mapping.rules.Met c.mappings ∧ PluginBinding.rules.Met c.plugins := by
  have hclaims : (c.mappings.map Mapping.claim).Nodup ↔ c.mappings.Pairwise fun m m' =>
      ¬ (m.source.url = m'.source.url ∧
        Text.upper m.source.method = Text.upper m'.source.method) := by
    rw [List.Nodup, List.pairwise_map]
    simp only [Mapping.claim, ne_eq, Prod.mk.injEq, and_comm]
  have hnames : (c.plugins.map PluginBinding.name).Nodup ↔
      c.plugins.Pairwise fun p p' => p.name ≠ p'.name := List.pairwise_map
  constructor
  · intro h
    exact ⟨⟨h.mappings, hclaims.mpr h.claims⟩, ⟨h.plugins, hnames.mpr h.names⟩⟩
  · rintro ⟨⟨hmappings, hkeys⟩, ⟨hplugins, hkeys'⟩⟩
    exact ⟨hmappings, hclaims.mp hkeys, hplugins, hnames.mp hkeys'⟩

theorem validate_eq_ok_iff_sound : c.validate = .ok () ↔ c.Sound := by
  rw [sound_iff_met, ← checkMappings_eq_ok_iff_met, ← checkPlugins_eq_ok_iff_met]
  exact andThen_eq_ok_iff

theorem exists_offends_of_validate (h : c.validate = .error e) : ∃ place, c.Offends place e := by
  rcases andThen_eq_error_iff.mp h with hmappings | ⟨hmappings, hplugins⟩
  · obtain ⟨i, hi⟩ := Mapping.rules_passedBy.exists_offends .nil hmappings
    exact ⟨.mapping i, .mapping hi⟩
  · obtain ⟨i, hi⟩ := PluginBinding.rules_passedBy.exists_offends .nil hplugins
    exact ⟨.plugin i, .plugin (checkMappings_eq_ok_iff_met.mp hmappings) hi⟩

theorem Offends.place_unique (h : c.Offends place e) (h' : c.Offends place' e') :
    place' = place := by
  cases h with
  | mapping h =>
    cases h' with
    | mapping h' => rw [h.place_unique Mapping.rules_consistent h']
    | plugin hmet _ => exact absurd hmet (h.not_met Mapping.rules_consistent)
  | plugin hmet h =>
    cases h' with
    | mapping h' => exact absurd hmet (h'.not_met Mapping.rules_consistent)
    | plugin _ h' => rw [h.place_unique PluginBinding.rules_consistent h']

theorem Offends.not_sound (h : c.Offends place e) : ¬ c.Sound := by
  intro hsound
  obtain ⟨hmappings, hplugins⟩ := sound_iff_met.mp hsound
  cases h with
  | mapping h => exact h.not_met Mapping.rules_consistent hmappings
  | plugin _ h => exact h.not_met PluginBinding.rules_consistent hplugins

theorem Offends.eq_or_entry (h : c.Offends place e) (h' : c.Offends place e') :
    e' = e ∨ ∃ i m, place = .mapping i ∧ c.mappings[i]? = some m ∧
      m.EntryFault e ∧ m.EntryFault e' := by
  cases h with
  | @mapping i _ h =>
    cases h' with
    | mapping h' =>
      rcases h.eq_or_fault Mapping.rules_consistent h' with heq | ⟨m, hm, hfault, hfault'⟩
      · exact .inl heq
      · refine (Mapping.Fault.eq_or_entry hfault hfault').imp_right ?_
        intro hentries
        exact ⟨i, m, rfl, hm, hentries⟩
  | plugin _ h =>
    cases h' with
    | plugin _ h' =>
      rcases h.eq_or_fault PluginBinding.rules_consistent h' with heq | ⟨p, -, hfault, hfault'⟩
      · exact .inl heq
      · exact .inl (PluginBinding.Fault.unique hfault hfault')

/-- A mapping that offends is the same one if other entries follow it. -/
theorem Offends.mapping_of_take_eq {c' : Configuration} {i : Nat} (h : c.Offends (.mapping i) e)
    (heq : c'.mappings.take (i + 1) = c.mappings.take (i + 1)) : c'.Offends (.mapping i) e := by
  cases h with
  | mapping h => exact .mapping (h.of_take_eq heq)

theorem Offends.iff_of_take_eq {c' : Configuration} {i : Nat} (h : c.Offends (.mapping i) e)
    (heq : c'.mappings.take (i + 1) = c.mappings.take (i + 1)) (place : Place) (e' : ConfigError) :
    c'.Offends place e' ↔ c.Offends place e' := by
  constructor
  · intro h'
    obtain rfl := (h.mapping_of_take_eq heq).place_unique h'
    exact h'.mapping_of_take_eq heq.symm
  · intro h'
    obtain rfl := h.place_unique h'
    exact h'.mapping_of_take_eq heq

theorem validate_of_take {i : Nat} (h : c.Offends (.mapping i) e) (later : List Mapping)
    (plugins : List PluginBinding) :
    { c with mappings := c.mappings.take (i + 1) ++ later, plugins := plugins }.validate =
      c.validate := by
  cases h with
  | mapping h =>
    have hnot : checkMappings [] (c.mappings.take (i + 1)) ≠ .ok () := fun hok =>
      h.not_met_take_succ Mapping.rules_consistent (checkMappings_eq_ok_iff_met.mp hok)
    cases hfirst : checkMappings [] (c.mappings.take (i + 1)) with
    | ok _ => exact absurd hfirst hnot
    | error e₁ =>
      have hall (rest : List Mapping) :
          checkMappings [] (c.mappings.take (i + 1) ++ rest) = .error e₁ :=
        Mapping.rules_passedBy.append_eq_error hfirst rest
      have hc := hall (c.mappings.drop (i + 1))
      rw [List.take_append_drop] at hc
      rw [validate, validate, hall, hc]
      rfl

theorem sound_of_relisted {ms : List Mapping} (hms : List.Forall₂ Mapping.Relisted c.mappings ms)
    (h : c.Sound) : { c with mappings := ms }.Sound := by
  obtain ⟨hmappings, hplugins⟩ := sound_iff_met.mp h
  have halike := hms.imp fun _ _ h => Mapping.alike_of_relisted h
  exact sound_iff_met.mpr ⟨Rules.met_of_alike halike hmappings, hplugins⟩

theorem Offends.of_relisted {ms : List Mapping} (hms : List.Forall₂ Mapping.Relisted c.mappings ms)
    (h : c.Offends place e) : { c with mappings := ms }.Offends place e := by
  have halike := hms.imp fun _ _ h => Mapping.alike_of_relisted h
  cases h with
  | mapping h => exact .mapping (h.of_alike halike)
  | plugin hmet h => exact .plugin (Rules.met_of_alike halike hmet) h

/-- How a configuration is judged by its check. -/
structure Judged (c : Configuration) : Prop where
  passes_iff : c.validate = .ok () ↔ c.Sound
  fails : ∀ e, c.validate = .error e → ∃ place, c.Offends place e
  refused : ∀ place e, c.Offends place e → ∃ e', c.validate = .error e' ∧ c.Offends place e'
  place_unique : ∀ place place' e e', c.Offends place e → c.Offends place' e' → place' = place
  /-- Nothing but the choice among bad replies by status is left open. -/
  named : ∀ place e e', c.Offends place e → c.Offends place e' →
    e' = e ∨ ∃ i m, place = .mapping i ∧ c.mappings[i]? = some m ∧
      m.EntryFault e ∧ m.EntryFault e'
  /-- What comes behind a mapping that offends does not count. -/
  later : ∀ i e, c.Offends (.mapping i) e → ∀ ms plugins,
    { c with mappings := c.mappings.take (i + 1) ++ ms, plugins := plugins }.validate =
        c.validate ∧
      ∀ place e', { c with mappings := c.mappings.take (i + 1) ++ ms, plugins := plugins }.Offends
        place e' ↔ c.Offends place e'
  /-- Listing the replies by status in another order changes at most that choice. -/
  relisted : ∀ ms, List.Forall₂ Mapping.Relisted c.mappings ms →
    ({ c with mappings := ms }.validate = .ok () ↔ c.validate = .ok ()) ∧
      ∀ place e, { c with mappings := ms }.Offends place e ↔ c.Offends place e

theorem judged_validate (c : Configuration) : Judged c where
  passes_iff := validate_eq_ok_iff_sound
  fails _ h := exists_offends_of_validate h
  refused place e h := by
    cases hvalid : c.validate with
    | ok _ => exact absurd (validate_eq_ok_iff_sound.mp hvalid) h.not_sound
    | error e' =>
      obtain ⟨place', h'⟩ := exists_offends_of_validate hvalid
      obtain rfl := h.place_unique h'
      exact ⟨e', rfl, h'⟩
  place_unique _ _ _ _ h h' := h.place_unique h'
  named _ _ _ h h' := h.eq_or_entry h'
  later i e h ms plugins := by
    refine ⟨validate_of_take h ms plugins, fun place e' => ?_⟩
    have hi : i < c.mappings.length := by
      cases h with
      | mapping h => exact h.lt_length
    have hlength : (c.mappings.take (i + 1)).length = i + 1 := by
      rw [List.length_take]
      omega
    exact h.iff_of_take_eq (List.take_left' hlength) place e'
  relisted ms hms := by
    have hback : List.Forall₂ Mapping.Relisted ms c.mappings :=
      hms.flip.imp fun _ _ h => h.symm
    constructor
    · rw [validate_eq_ok_iff_sound, validate_eq_ok_iff_sound]
      exact ⟨fun h => sound_of_relisted (c := { c with mappings := ms }) hback h,
        sound_of_relisted hms⟩
    · intro place e
      exact ⟨fun h => Offends.of_relisted (c := { c with mappings := ms }) hback h,
        fun h => h.of_relisted hms⟩

end Configuration
end ApiMapping
