import ApiMapping.Plugin.BuiltIn
import ApiMapping.Proofs.Keyed

/-!
# What the names of a plugin table mean

A table is made by calls that may fail. What the calls that did not fail have done is a list
of events, and what a name means can be read off that list: the instance that the name was
last bound to, as it was first registered.
-/

namespace ApiMapping
namespace PluginTable

/-! ## Single updates -/

namespace Update

variable (name : String) (plugin : Plugin) (b : PluginBinding) (t : PluginTable)

theorem run_registerInstance :
    (registerInstance name plugin).run t =
      if t.hasInstance name then .error (.alreadyRegistered name) t
      else .ok () { t with instances := Keyed.put name plugin t.instances } := by
  cases h : t.hasInstance name <;> simp [registerInstance, h]

theorem run_register :
    (register name plugin).run t =
      if t.hasInstance name then .error (.alreadyRegistered name) t
      else .ok () ⟨Keyed.put name plugin t.instances, Keyed.put name name t.bindings⟩ := by
  cases h : t.hasInstance name <;> simp [register, run_registerInstance, h]

theorem run_bind :
    (bind b).run t =
      if t.hasInstance b.instanceName then
        .ok () { t with bindings := Keyed.put b.name b.instanceName t.bindings }
      else .error (.unknownInstance b.name b.instanceName) t := by
  cases h : t.hasInstance b.instanceName <;> simp [bind, h]

end Update

/-! ## Calls and what they have done -/

/-- A call on a table. -/
inductive Call where
  | registerInstance (name : String) (plugin : Plugin)
  | register (name : String) (plugin : Plugin)
  | bind (b : PluginBinding)
  | registerBuiltIns (s : Surroundings)

/-- What a call that does not fail has done. -/
inductive Event where
  | registered (instanceName : String) (plugin : Plugin)
  | bound (name instanceName : String)

namespace Call

def update : Call → Update
  | .registerInstance name plugin => .registerInstance name plugin
  | .register name plugin => .register name plugin
  | .bind b => .bind b
  | .registerBuiltIns s => modify (·.registerBuiltIns s)

def after (call : Call) (t : PluginTable) : PluginTable := call.update.after t

end Call

/-- The events of an update, none if it fails. -/
def Update.achieved (u : Update) (events : List Event) (t : PluginTable) : List Event :=
  match u.run t with
  | .ok _ _ => events
  | .error _ _ => []

/-- The events of registering instances one after another. -/
def registrations (t : PluginTable) : List (String × Plugin) → List Event
  | [] => []
  | (name, plugin) :: rest =>
    let u := Update.registerInstance name plugin
    u.achieved [.registered name plugin] t ++ registrations (u.after t) rest

def Call.events (t : PluginTable) : Call → List Event
  | .registerInstance name plugin =>
    (Update.registerInstance name plugin).achieved [.registered name plugin] t
  | .register name plugin =>
    (Update.register name plugin).achieved [.registered name plugin, .bound name name] t
  | .bind b => (Update.bind b).achieved [.bound b.name b.instanceName] t
  | .registerBuiltIns s => t.registrations (builtIns s)

/-- The table after calls in a row, failed ones among them. -/
def run (t : PluginTable) (calls : List Call) : PluginTable :=
  calls.foldl (fun t call => call.after t) t

/-- The events of calls in a row. -/
def history (t : PluginTable) : List Call → List Event
  | [] => []
  | call :: rest => call.events t ++ history (call.after t) rest

def Event.registers? (instanceName : String) : Event → Option Plugin
  | .registered other plugin => if other = instanceName then some plugin else none
  | .bound .. => none

def Event.binds? (name : String) : Event → Option String
  | .registered .. => none
  | .bound other instanceName => if other = name then some instanceName else none

/-- The plugin of the first registration of an instance. -/
def firstRegistered? (instanceName : String) (events : List Event) : Option Plugin :=
  events.findSome? (·.registers? instanceName)

/-- The instance that a name was bound to last. -/
def lastBound? (name : String) (events : List Event) : Option String :=
  events.reverse.findSome? (·.binds? name)

theorem firstRegistered?_append (i : String) (events later : List Event) :
    firstRegistered? i (events ++ later) =
      (firstRegistered? i events).or (firstRegistered? i later) :=
  List.findSome?_append

theorem lastBound?_append (name : String) (events later : List Event) :
    lastBound? name (events ++ later) = (lastBound? name later).or (lastBound? name events) := by
  rw [lastBound?, List.reverse_append, List.findSome?_append, lastBound?, lastBound?]

/-! ## Tables and their histories -/

/-- The table is what the events have made of an empty one. -/
structure Reflects (t : PluginTable) (events : List Event) : Prop where
  instances : ∀ i, t.instances.lookup i = firstRegistered? i events
  bindings : ∀ name, t.bindings.lookup name = lastBound? name events
  bound : ∀ name i, t.bindings.lookup name = some i → t.hasInstance i = true
  nodup : (t.bindings.map Prod.fst).Nodup

theorem reflects_empty : empty.Reflects [] where
  instances _ := rfl
  bindings _ := rfl
  bound name i h := by simp [empty] at h
  nodup := List.nodup_nil

theorem hasInstance_of_prefix {t t' : PluginTable} {i : String} (h : t.instances <+: t'.instances)
    (hi : t.hasInstance i = true) : t'.hasInstance i = true := by
  obtain ⟨more, hmore⟩ := h
  rw [hasInstance, ← hmore, List.lookup_append, Option.isSome_or, Bool.or_eq_true]
  exact .inl hi

theorem lookup_eq_none_of_new {t : PluginTable} {name : String} (h : t.hasInstance name = false) :
    t.instances.lookup name = none := by
  rw [hasInstance, Option.isSome_eq_false_iff, Option.isNone_iff_eq_none] at h
  exact h

theorem prefix_put {t : PluginTable} {name : String} (h : t.hasInstance name = false)
    (plugin : Plugin) : t.instances <+: Keyed.put name plugin t.instances := by
  have hnew : name ∉ t.instances.map Prod.fst := by
    rw [← Keyed.isSome_lookup_iff, lookup_eq_none_of_new h]
    exact Bool.false_ne_true
  rw [Keyed.put_of_not_mem hnew]
  exact List.prefix_append _ _

section Step

variable {t : PluginTable} {events : List Event}

/-- Nothing is changed before a call fails. -/
theorem Call.eq_of_failed (call : Call) {e : PluginError} {t' : PluginTable}
    (h : call.update.run t = .error e t') : t' = t := by
  cases call with
  | registerInstance name plugin =>
    rw [Call.update, Update.run_registerInstance] at h
    cases hname : t.hasInstance name <;> rw [hname] at h <;> cases h
    rfl
  | register name plugin =>
    rw [Call.update, Update.run_register] at h
    cases hname : t.hasInstance name <;> rw [hname] at h <;> cases h
    rfl
  | bind b =>
    rw [Call.update, Update.run_bind] at h
    cases hname : t.hasInstance b.instanceName <;> rw [hname] at h <;> cases h
    rfl
  | registerBuiltIns s => cases h

/-- A new instance is registered for the first time. -/
theorem Reflects.registered (h : t.Reflects events) {name : String}
    (hnew : t.hasInstance name = false) (plugin : Plugin) :
    Reflects { t with instances := Keyed.put name plugin t.instances }
      (events ++ [.registered name plugin]) where
  instances i := by
    rw [firstRegistered?_append, ← h.instances]
    by_cases hname : i = name
    · subst hname
      simp [firstRegistered?, Event.registers?, lookup_eq_none_of_new hnew]
    · simp [firstRegistered?, Event.registers?, Keyed.lookup_put_of_ne hname, Ne.symm hname]
  bindings other := by
    rw [lastBound?_append, h.bindings]
    rfl
  bound other i hi := hasInstance_of_prefix (prefix_put hnew plugin) (h.bound other i hi)
  nodup := h.nodup

/-- Binding a name again replaces what it was bound to. -/
theorem Reflects.boundTo (h : t.Reflects events) {i : String} (hi : t.hasInstance i = true)
    (name : String) :
    Reflects { t with bindings := Keyed.put name i t.bindings } (events ++ [.bound name i]) where
  instances j := by
    rw [firstRegistered?_append, h.instances]
    exact (Option.or_none).symm
  bindings other := by
    rw [lastBound?_append]
    by_cases hname : other = name
    · subst hname
      simp [lastBound?, Event.binds?]
    · rw [Keyed.lookup_put_of_ne hname, h.bindings]
      simp [lastBound?, Event.binds?, Ne.symm hname]
  bound other j hj := by
    by_cases hname : other = name
    · subst hname
      rw [Keyed.lookup_put_self, Option.some.injEq] at hj
      exact hj ▸ hi
    · rw [Keyed.lookup_put_of_ne hname] at hj
      exact h.bound other j hj
  nodup := Keyed.nodup_put h.nodup name i

/-- An update that leaves the table alone if it fails. -/
theorem Reflects.update (h : t.Reflects events) {u : Update} {done : List Event}
    (hok : ∀ t', u.run t = .ok () t' → t'.Reflects (events ++ done))
    (herror : ∀ e t', u.run t = .error e t' → t' = t) :
    (u.after t).Reflects (events ++ u.achieved done t) := by
  unfold Update.after Update.achieved
  cases hrun : u.run t with
  | ok _ t' => exact hok t' hrun
  | error e t' =>
    rw [herror e t' hrun, List.append_nil]
    exact h

theorem Reflects.registerInstance (h : t.Reflects events) (name : String) (plugin : Plugin) :
    ((Update.registerInstance name plugin).after t).Reflects
      (events ++ (Update.registerInstance name plugin).achieved [.registered name plugin] t) := by
  refine h.update ?_ fun _ _ => Call.eq_of_failed (.registerInstance name plugin)
  intro t' hrun
  rw [Update.run_registerInstance] at hrun
  cases hname : t.hasInstance name <;> rw [hname] at hrun <;> cases hrun
  exact h.registered hname plugin

theorem Reflects.registerAll (h : t.Reflects events) (plugins : List (String × Plugin)) :
    (plugins.foldl (fun t (name, plugin) => (Update.registerInstance name plugin).after t) t).Reflects
      (events ++ t.registrations plugins) := by
  induction plugins generalizing t events with
  | nil =>
    rw [registrations, List.append_nil]
    exact h
  | cons entry plugins ih =>
    obtain ⟨name, plugin⟩ := entry
    rw [List.foldl_cons, registrations, ← List.append_assoc]
    exact ih (h.registerInstance name plugin)

/-- What one call keeps. -/
theorem Reflects.call (h : t.Reflects events) (call : Call) :
    (call.after t).Reflects (events ++ call.events t) := by
  cases call with
  | registerInstance name plugin => exact h.registerInstance name plugin
  | register name plugin =>
    refine h.update ?_ fun _ _ => Call.eq_of_failed (.register name plugin)
    intro t' hrun
    rw [Call.update, Update.run_register] at hrun
    cases hname : t.hasInstance name <;> rw [hname] at hrun <;> cases hrun
    have hregistered := h.registered hname plugin
    have hbound := hregistered.boundTo (i := name) (by simp [hasInstance]) name
    rwa [List.append_assoc] at hbound
  | bind b =>
    refine h.update ?_ fun _ _ => Call.eq_of_failed (.bind b)
    intro t' hrun
    rw [Call.update, Update.run_bind] at hrun
    cases hname : t.hasInstance b.instanceName <;> rw [hname] at hrun <;> cases hrun
    exact h.boundTo hname b.name
  | registerBuiltIns s => exact h.registerAll (builtIns s)

/-- What a run of calls keeps. -/
theorem Reflects.run (h : t.Reflects events) (calls : List Call) :
    (t.run calls).Reflects (events ++ t.history calls) := by
  induction calls generalizing t events with
  | nil =>
    rw [history, List.append_nil]
    exact h
  | cons call calls ih =>
    rw [history, ← List.append_assoc]
    exact ih (h.call call)

theorem Reflects.exists_instance (h : t.Reflects events) {name i : String}
    (hi : t.bindings.lookup name = some i) : ∃ plugin, t.instances.lookup i = some plugin :=
  Option.isSome_iff_exists.mp (h.bound name i hi)

/-- The names are those that mean something. -/
theorem Reflects.exists_resolve?_iff (h : t.Reflects events) {name : String} :
    (∃ plugin, t.resolve? name = some plugin) ↔ name ∈ t.names := by
  rw [names, Keyed.mem_names_sorted, ← Keyed.isSome_lookup_iff, Option.isSome_iff_exists]
  constructor
  · rintro ⟨plugin, hplugin⟩
    obtain ⟨i, hi, -⟩ := Option.bind_eq_some_iff.mp hplugin
    exact ⟨i, hi⟩
  · rintro ⟨i, hi⟩
    obtain ⟨plugin, hplugin⟩ := h.exists_instance hi
    exact ⟨plugin, Option.bind_eq_some_iff.mpr ⟨i, hi, hplugin⟩⟩

end Step

/-! ## What stays -/

theorem instances_registerInstance (name : String) (plugin : Plugin) (t : PluginTable) :
    t.instances <+: ((Update.registerInstance name plugin).after t).instances := by
  rw [Update.after, Update.run_registerInstance]
  cases hname : t.hasInstance name
  · exact prefix_put hname plugin
  · exact List.prefix_rfl

theorem bindings_registerInstance (name : String) (plugin : Plugin) (t : PluginTable) :
    ((Update.registerInstance name plugin).after t).bindings = t.bindings := by
  rw [Update.after, Update.run_registerInstance]
  cases t.hasInstance name <;> rfl

/-- Registering instances adds to those that are there and binds no name. -/
theorem registerAll_kept (plugins : List (String × Plugin)) (t : PluginTable) :
    let t' := plugins.foldl (fun t (name, plugin) => (Update.registerInstance name plugin).after t) t
    t.instances <+: t'.instances ∧ t'.bindings = t.bindings := by
  induction plugins generalizing t with
  | nil => exact ⟨List.prefix_rfl, rfl⟩
  | cons entry plugins ih =>
    obtain ⟨name, plugin⟩ := entry
    obtain ⟨hinstances, hbindings⟩ := ih ((Update.registerInstance name plugin).after t)
    refine ⟨(instances_registerInstance name plugin t).trans hinstances, ?_⟩
    exact hbindings.trans (bindings_registerInstance name plugin t)

theorem instances_call (call : Call) (t : PluginTable) :
    t.instances <+: (call.after t).instances := by
  cases call with
  | registerInstance name plugin => exact instances_registerInstance name plugin t
  | register name plugin =>
    change t.instances <+: ((Update.register name plugin).after t).instances
    rw [Update.after, Update.run_register]
    cases hname : t.hasInstance name
    · exact prefix_put hname plugin
    · exact List.prefix_rfl
  | bind b =>
    change t.instances <+: ((Update.bind b).after t).instances
    rw [Update.after, Update.run_bind]
    cases t.hasInstance b.instanceName <;> exact List.prefix_rfl
  | registerBuiltIns s => exact (registerAll_kept (builtIns s) t).1

theorem instances_run (t : PluginTable) (calls : List Call) :
    t.instances <+: (t.run calls).instances := by
  induction calls generalizing t with
  | nil => exact List.prefix_rfl
  | cons call calls ih => exact (instances_call call t).trans (ih (call.after t))

theorem lookup_of_prefix {t t' : PluginTable} {i : String} {plugin : Plugin}
    (h : t.instances <+: t'.instances) (hi : t.instances.lookup i = some plugin) :
    t'.instances.lookup i = some plugin := by
  obtain ⟨more, hmore⟩ := h
  rw [← hmore, List.lookup_append, hi, Option.some_or]

/-- What a table owes to the calls that have made it. -/
structure Faithful (t : PluginTable) (calls : List Call) : Prop where
  /-- No name is bound to an instance that is not there. -/
  bound : ∀ name i, t.bindings.lookup name = some i → ∃ plugin, t.instances.lookup i = some plugin
  resolves_iff : ∀ name, (∃ plugin, t.resolve? name = some plugin) ↔ name ∈ t.names
  names_increasing : t.names.Pairwise (· < ·)
  /-- A name means the first registration of the instance that it was bound to last. -/
  resolve : ∀ name, t.resolve? name =
    lastBound? name (empty.history calls) >>= fun i => firstRegistered? i (empty.history calls)
  /-- Whatever is called later, an instance stays the plugin that it is. -/
  lasting : ∀ later i plugin, t.instances.lookup i = some plugin →
    (t.run later).instances.lookup i = some plugin
  /-- A call that fails changes no name and no meaning. -/
  failed : ∀ (call : Call) e t', call.update.run t = .error e t' →
    t'.names = t.names ∧ ∀ name, t'.resolve? name = t.resolve? name
  builtIns : ∀ s, (t.registerBuiltIns s).bindings = t.bindings ∧
    ∀ i plugin, t.instances.lookup i = some plugin →
      (t.registerBuiltIns s).instances.lookup i = some plugin

/-- Calls on an empty table, in any order and however many of them fail. -/
theorem faithful_run (calls : List Call) : (empty.run calls).Faithful calls := by
  have hreflects := reflects_empty.run calls
  rw [List.nil_append] at hreflects
  exact
    { bound := fun _ _ => hreflects.exists_instance
      resolves_iff := fun _ => hreflects.exists_resolve?_iff
      names_increasing := Keyed.sorted_names_increasing hreflects.nodup
      resolve := by
        intro name
        simp only [resolve?, hreflects.bindings, hreflects.instances]
      lasting := by
        intro later i plugin hi
        exact lookup_of_prefix (instances_run _ later) hi
      failed := by
        intro call e t' hrun
        rw [Call.eq_of_failed call hrun]
        exact ⟨rfl, fun _ => rfl⟩
      builtIns := by
        intro s
        obtain ⟨hinstances, hbindings⟩ := registerAll_kept (PluginTable.builtIns s) (empty.run calls)
        exact ⟨hbindings, fun i plugin hi => lookup_of_prefix hinstances hi⟩ }

end PluginTable
end ApiMapping
