import ApiMapping.Json.Basic
import ApiMapping.Keyed

/-!
# Plugins and the table of their names

A plugin computes a value from values. It is registered once as an instance, and
names are bound to instances; a name may be bound again, an instance is never
replaced.
-/

namespace ApiMapping

abbrev Plugin := List Json → Json

/-- A name for calls and the instance that it is to mean. The path only tells readers
where the plugin comes from. -/
structure PluginBinding where
  name : String
  path : String
  instanceName : String
deriving DecidableEq, Repr, Inhabited

inductive PluginError where
  | alreadyRegistered (instanceName : String)
  | unknownInstance (name instanceName : String)
deriving DecidableEq, Repr

namespace PluginError

def message : PluginError → String
  | .alreadyRegistered instanceName => s!"plugin instance '{instanceName}' already registered"
  | .unknownInstance name instanceName =>
    s!"plugin '{name}' refers to unknown instance '{instanceName}'"

end PluginError

structure PluginTable where
  instances : List (String × Plugin)
  bindings : List (String × String)

namespace PluginTable

def empty : PluginTable := ⟨[], []⟩

def hasInstance (t : PluginTable) (name : String) : Bool := (t.instances.lookup name).isSome

/-- A change of a table. If it fails, what it has changed up to there stays changed. -/
abbrev Update := EStateM PluginError PluginTable Unit

namespace Update

def registerInstance (name : String) (plugin : Plugin) : Update := do
  if (← get).hasInstance name then throw (.alreadyRegistered name)
  modify fun t => { t with instances := Keyed.put name plugin t.instances }

/-- Register a plugin and bind its own name to it. -/
def register (name : String) (plugin : Plugin) : Update := do
  registerInstance name plugin
  modify fun t => { t with bindings := Keyed.put name name t.bindings }

def bind (b : PluginBinding) : Update := do
  if !(← get).hasInstance b.instanceName then throw (.unknownInstance b.name b.instanceName)
  modify fun t => { t with bindings := Keyed.put b.name b.instanceName t.bindings }

/-- The table that an update leaves, whether it fails or not. -/
def after (u : Update) (t : PluginTable) : PluginTable :=
  match u.run t with
  | .ok _ t => t
  | .error _ t => t

/-- The changed table of an update that does not fail. -/
def result (u : Update) (t : PluginTable) : Except PluginError PluginTable :=
  match u.run t with
  | .ok _ t => .ok t
  | .error e _ => .error e

end Update

def registerInstance (t : PluginTable) (name : String) (plugin : Plugin) :
    Except PluginError PluginTable :=
  (Update.registerInstance name plugin).result t

def register (t : PluginTable) (name : String) (plugin : Plugin) :
    Except PluginError PluginTable :=
  (Update.register name plugin).result t

def bind (t : PluginTable) (b : PluginBinding) : Except PluginError PluginTable :=
  (Update.bind b).result t

/-- Bind what can be bound and leave out the rest. -/
def bindAll (t : PluginTable) (bindings : List PluginBinding) : PluginTable :=
  bindings.foldl (fun t b => (Update.bind b).after t) t

/-- The names that are bound, in order. -/
def names (t : PluginTable) : List String := (Keyed.sorted t.bindings).map Prod.fst

/-- The plugin that a name means. -/
def resolve? (t : PluginTable) (name : String) : Option Plugin :=
  t.bindings.lookup name >>= fun instanceName => t.instances.lookup instanceName

/-- Call a plugin by name. A name that means none gives null. -/
def invoke (t : PluginTable) (name : String) (args : List Json) : Json :=
  match t.resolve? name with
  | some plugin => plugin args
  | none => .null

@[simp] theorem resolve?_empty (name : String) : empty.resolve? name = none := rfl

end PluginTable
end ApiMapping
