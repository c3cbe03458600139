import ApiMapping.Proofs.Gateway.Building
import ApiMapping.Proofs.Plugin.Table

/-!
# The plugins of a gateway

The entries of a configuration are bound one after another into the table that is given, and
an entry whose instance is not there changes nothing. No two entries have the same name, so
none of them replaces what another has bound. An entry that is left out does not silence its
name: if the name means something in the given table, it goes on meaning that.
-/

namespace ApiMapping

namespace PluginTable

/-! ## Binding entries one after another -/

/-- The names that entries give to instances of the table. -/
def usable (t : PluginTable) (entries : List PluginBinding) : List (String × String) :=
  (entries.filter fun b => t.hasInstance b.instanceName).map fun b => (b.name, b.instanceName)

section Usable

variable {t : PluginTable} {entries : List PluginBinding} {b : PluginBinding}

theorem usable_cons (t : PluginTable) (b : PluginBinding) (rest : List PluginBinding) :
    t.usable (b :: rest) =
      if t.hasInstance b.instanceName then (b.name, b.instanceName) :: t.usable rest
      else t.usable rest := by
  unfold usable
  cases h : t.hasInstance b.instanceName <;> simp [h]

theorem mem_usable (hb : b ∈ entries) (h : t.hasInstance b.instanceName = true) :
    (b.name, b.instanceName) ∈ t.usable entries :=
  List.mem_map_of_mem (List.mem_filter.mpr ⟨hb, h⟩)

theorem exists_entry_of_usable {name : String} (h : name ∈ (t.usable entries).map Prod.fst) :
    ∃ b ∈ entries, b.name = name ∧ t.hasInstance b.instanceName = true := by
  rw [usable, List.map_map, List.mem_map] at h
  obtain ⟨b, hb, hname⟩ := h
  obtain ⟨hmem, hinstance⟩ := List.mem_filter.mp hb
  exact ⟨b, hmem, hname, hinstance⟩

theorem nodup_usable (h : (entries.map PluginBinding.name).Nodup) :
    ((t.usable entries).map Prod.fst).Nodup := by
  rw [usable, List.map_map]
  exact h.sublist (List.filter_sublist.map PluginBinding.name)

/-- An entry that is left out leaves its name to no other entry. -/
theorem not_mem_usable (hnames : (entries.map PluginBinding.name).Nodup) (hb : b ∈ entries)
    (h : t.hasInstance b.instanceName = false) : b.name ∉ (t.usable entries).map Prod.fst := by
  intro hmem
  obtain ⟨other, hother, hname, hinstance⟩ := exists_entry_of_usable hmem
  rw [List.inj_on_of_nodup_map hnames hother hb hname, h] at hinstance
  cases hinstance

end Usable

theorem after_bind (b : PluginBinding) (t : PluginTable) :
    (Update.bind b).after t =
      if t.hasInstance b.instanceName then
        { t with bindings := Keyed.put b.name b.instanceName t.bindings }
      else t := by
  rw [Update.after, Update.run_bind]
  cases t.hasInstance b.instanceName <;> rfl

/-- Binding entries registers nothing, so which of them can be bound is known beforehand. -/
theorem bindAll_eq (t : PluginTable) (entries : List PluginBinding) :
    t.bindAll entries = { t with
      bindings := (t.usable entries).foldl (fun bindings entry => Keyed.put entry.1 entry.2 bindings)
        t.bindings } := by
  induction entries generalizing t with
  | nil => rfl
  | cons b rest ih =>
    have hstep : t.bindAll (b :: rest) = ((Update.bind b).after t).bindAll rest := rfl
    rw [hstep, ih, after_bind, usable_cons]
    cases t.hasInstance b.instanceName <;> rfl

theorem resolve?_bindAll (t : PluginTable) (entries : List PluginBinding) (name : String) :
    (t.bindAll entries).resolve? name =
      (((t.usable entries).foldl (fun bindings entry => Keyed.put entry.1 entry.2 bindings)
        t.bindings).lookup name >>= fun i => t.instances.lookup i) := by
  rw [bindAll_eq, resolve?]

theorem resolve?_bindAll_of_not_mem {t : PluginTable} {entries : List PluginBinding} {name : String}
    (h : name ∉ (t.usable entries).map Prod.fst) :
    (t.bindAll entries).resolve? name = t.resolve? name := by
  rw [resolve?_bindAll, Keyed.lookup_foldl_put_of_not_mem h, resolve?]

theorem resolve?_bindAll_of_mem {t : PluginTable} {entries : List PluginBinding} {b : PluginBinding}
    (hnames : (entries.map PluginBinding.name).Nodup) (hb : b ∈ entries) {plugin : Plugin}
    (h : t.instances.lookup b.instanceName = some plugin) :
    (t.bindAll entries).resolve? b.name = some plugin := by
  have hinstance : t.hasInstance b.instanceName = true := by rw [hasInstance, h, Option.isSome_some]
  have hbound := Keyed.lookup_foldl_put_of_mem (nodup_usable hnames) (mem_usable hb hinstance)
    t.bindings
  rw [resolve?_bindAll, hbound]
  exact h

/-! ## What a name means -/

/-- Calls of the name give what the plugin makes of their arguments, and null if there is
no plugin. -/
structure Means (t : PluginTable) (name : String) (plugin? : Option Plugin) : Prop where
  invoke : ∀ args, t.invoke name args = plugin?.elim .null (· args)
  resolve : ∀ ctx arguments, (Template.Expression.call name arguments).resolve t ctx =
    plugin?.elim .null (· (Template.Expression.resolveArguments t ctx arguments))

theorem means_of_resolve? {t : PluginTable} {name : String} {plugin? : Option Plugin}
    (h : t.resolve? name = plugin?) : t.Means name plugin? := by
  have hinvoke (args : List Json) : t.invoke name args = plugin?.elim .null (· args) := by
    rw [PluginTable.invoke, h]
    cases plugin? <;> rfl
  refine ⟨hinvoke, ?_⟩
  intro ctx arguments
  rw [Template.Expression.resolve]
  exact hinvoke _

end PluginTable

namespace Gateway

open PluginTable

variable {c : Configuration} {given : PluginTable} {g : Gateway}

/-- What the entries of a configuration make of the names of the given table. -/
structure FollowsEntries (c : Configuration) (given : PluginTable) (g : Gateway) : Prop where
  /-- The name of an entry means the entry's instance, whatever it meant before. -/
  registered : ∀ b ∈ c.plugins, ∀ plugin, given.instances.lookup b.instanceName = some plugin →
    g.plugins.Means b.name (some plugin)
  /-- An entry whose instance is not there does not take the name's meaning away. -/
  unregistered : ∀ b ∈ c.plugins, given.hasInstance b.instanceName = false →
    g.plugins.Means b.name (given.resolve? b.name)
  /-- Such a name gives nothing but null exactly if it did so in the given table. -/
  silent_iff : ∀ b ∈ c.plugins, given.hasInstance b.instanceName = false →
    ((∀ args, g.plugins.invoke b.name args = .null) ↔ ∀ args, given.invoke b.name args = .null)
  unmentioned : ∀ name, name ∉ c.plugins.map PluginBinding.name →
    g.plugins.Means name (given.resolve? name)

theorem followsEntries_of_build (h : build c given = .ok g) : FollowsEntries c given g := by
  obtain ⟨hvalid, -, -, hplugins⟩ := build_eq_ok_iff.mp h
  have hnames : (c.plugins.map PluginBinding.name).Nodup :=
    (Configuration.validate_eq_ok_iff.mp hvalid).2.2
  have hleftOut {b : PluginBinding} (hb : b ∈ c.plugins)
      (hinstance : given.hasInstance b.instanceName = false) :
      g.plugins.resolve? b.name = given.resolve? b.name := by
    rw [hplugins, resolve?_bindAll_of_not_mem (not_mem_usable hnames hb hinstance)]
  refine
    { registered := ?_
      unregistered := fun b hb hinstance => means_of_resolve? (hleftOut hb hinstance)
      silent_iff := ?_
      unmentioned := ?_ }
  · intro b hb plugin hplugin
    apply means_of_resolve?
    rw [hplugins]
    exact resolve?_bindAll_of_mem hnames hb hplugin
  · intro b hb hinstance
    have hsame (args : List Json) : g.plugins.invoke b.name args = given.invoke b.name args := by
      rw [invoke, invoke, hleftOut hb hinstance]
    simp only [hsame]
  · intro name hname
    apply means_of_resolve?
    rw [hplugins]
    apply resolve?_bindAll_of_not_mem
    intro hmem
    obtain ⟨b, hb, rfl, -⟩ := exists_entry_of_usable hmem
    exact hname (List.mem_map_of_mem hb)

/-- Every configuration that passes the check is built, and its entries are followed. -/
theorem exists_build_followsEntries (h : c.validate = .ok ()) (given : PluginTable) :
    ∃ g, build c given = .ok g ∧ FollowsEntries c given g := by
  obtain ⟨g, hg⟩ := exists_build h given
  exact ⟨g, hg, followsEntries_of_build hg⟩

/-- The first entry names an instance of `echoTable`, the second one does not. -/
def pluginConfiguration : Configuration := { Configuration.default with
  plugins := [⟨"list", "echo.so", "echo"⟩, ⟨"echo", "ghost.so", "ghost"⟩] }

/-- A table with one plugin, which lists its arguments and is called by its own name. -/
def echoTable : PluginTable := ⟨[("echo", fun args => .array args)], [("echo", "echo")]⟩

theorem followsEntries_echo :
    ∃ g, build pluginConfiguration echoTable = .ok g ∧
      FollowsEntries pluginConfiguration echoTable g :=
  exists_build_followsEntries rfl echoTable

/-- The instance of an entry is not there, and yet a call of its name does not give null. -/
theorem invoke_echo_ne_null :
    pluginConfiguration.validate = .ok () ∧ ∃ b ∈ pluginConfiguration.plugins,
      echoTable.hasInstance b.instanceName = false ∧
        ∃ g, build pluginConfiguration echoTable = .ok g ∧
          g.plugins.invoke b.name [.bool true] = .array [.bool true] := by
  refine ⟨rfl, ⟨"echo", "ghost.so", "ghost"⟩, by decide, rfl, ?_⟩
  exact ⟨_, rfl, rfl⟩

end Gateway
end ApiMapping
