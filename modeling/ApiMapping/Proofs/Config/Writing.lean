import ApiMapping.Config.Reading
import ApiMapping.Config.Writing
import ApiMapping.Proofs.Document.Records

/-!
# Configurations that are written

Every record is written as the object of its fields in order, and every field is read as it was
written. A configuration can be written without loss if its tables have no repeated names and
its templates are values that a document can hold.
-/

namespace ApiMapping

open Document

variable {α β : Type}

/-! ## Fields -/

theorem readTable_ofJson {read : Node → Except ReadError α} {write : α → Json}
    {ys : List (String × α)} (h : ∀ y ∈ ys, read (ofJson (write y.2)) = .ok y.2)
    (hnames : (ys.map Prod.fst).Nodup) :
    readTable read (ofJson (.object (ys.map fun y => (y.1, write y.2)))) = .ok ys := by
  have hentries : Node.entries "a map" read (ofJson (.object (ys.map fun y => (y.1, write y.2)))) =
      .ok (ys.map fun y => (y.1, y.2)) := Node.entries_ofJson h "a map"
  rw [readTable, hentries, show ys.map (fun y => (y.1, y.2)) = ys from List.map_id ys]
  exact congrArg Except.ok (Node.collapse_of_nodup hnames)

theorem readMembers_ofJson {members : List (String × Json)} (h : (Json.object members).Distinct) :
    readMembers (ofJson (.object members)) = .ok members := by
  obtain ⟨hnames, hvalues⟩ := Json.distinct_object.mp h
  have hread : ∀ m ∈ members, Node.json (ofJson (id m.2)) = .ok m.2 :=
    fun m hm => Node.json_ofJson (hvalues m hm)
  have htable := readTable_ofJson hread hnames
  rwa [show members.map (fun m => (m.1, id m.2)) = members from List.map_id members] at htable

theorem readUInt64_ofJson (n : UInt64) (expected : String) :
    readUInt64 expected (ofJson (Json.ofNat n.toNat)) = .ok n := by
  rw [readUInt64, Node.natural_ofJson n.toNat_lt_size]
  simp

theorem readStatus_ofJson (status : UInt16) :
    readStatus (ofJson (Json.ofNat status.toNat)) = .ok status := by
  rw [readStatus, Node.natural_ofJson status.toNat_lt_size]
  simp

theorem readMatchValue_ofJson (s : String) : readMatchValue (ofJson (.string s)) = .ok s := rfl

/-! ## Records -/

namespace Settings

theorem read_toJson (s : Settings) : record.read (ofJson s.toJson) = .ok s := by
  refine Record.read_ofJson_object (by decide) rfl ?_
  exact Record.readItems_ofJson (Field.read_defaulted (Node.text_ofJson _) _ _) <|
    Record.readItems_ofJson (Field.read_defaulted (readUInt64_ofJson _ _) _ _) <|
    Record.readItems_ofJson (Field.read_defaulted (readUInt64_ofJson _ _) _ _) <|
    Record.readItems_ofJson (Field.read_defaulted (Node.bool_ofJson _) _ _) rfl

end Settings

namespace SourceContract

theorem read_toJson (s : SourceContract) : record.read (ofJson s.toJson) = .ok s := by
  refine Record.read_ofJson_object (by decide) rfl ?_
  exact Record.readItems_ofJson (Field.read_needed (Node.text_ofJson _) _ _) <|
    Record.readItems_ofJson (Field.read_needed (Node.text_ofJson _) _ _) rfl

end SourceContract

namespace TargetContract

def Settled (t : TargetContract) : Prop := (Json.object t.headers).Distinct

theorem read_toJson {t : TargetContract} (h : t.Settled) :
    record.read (ofJson t.toJson) = .ok t := by
  refine Record.read_ofJson_object (by decide) rfl ?_
  exact Record.readItems_ofJson (Field.read_needed (Node.text_ofJson _) _ _) <|
    Record.readItems_ofJson (Field.read_needed (Node.text_ofJson _) _ _) <|
    Record.readItems_ofJson (Field.read_defaulted (readMembers_ofJson h) _ _) rfl

end TargetContract

namespace RequestTemplates

structure Settled (r : RequestTemplates) : Prop where
  query : (Json.object r.query).Distinct
  body : r.body.Distinct

theorem read_toJson {r : RequestTemplates} (h : r.Settled) :
    record.read (ofJson r.toJson) = .ok r := by
  refine Record.read_ofJson_object (by decide) rfl ?_
  exact Record.readItems_ofJson (Field.read_defaulted (readMembers_ofJson h.query) _ _) <|
    Record.readItems_ofJson (Field.read_defaulted (Node.json_ofJson h.body) _ _) rfl

end RequestTemplates

namespace Reply

def Settled (r : Reply) : Prop := r.body.Distinct

theorem read_toJson {r : Reply} (h : r.Settled) : record.read (ofJson r.toJson) = .ok r := by
  refine Record.read_ofJson_object (by decide) rfl ?_
  exact Record.readItems_ofJson (Field.read_defaulted (readStatus_ofJson _) _ _) <|
    Record.readItems_ofJson (Field.read_defaulted (Node.json_ofJson h) _ _) rfl

theorem read_wrap {r : Reply} (h : r.Settled) : wrapped.read (ofJson r.wrap) = .ok r := by
  refine Record.read_ofJson_object (by decide) rfl ?_
  exact Record.readItems_ofJson (Field.read_needed (read_toJson h) _ _) rfl

end Reply

namespace StatusSection

structure Settled (s : StatusSection) : Prop where
  fallback : s.fallback.Settled
  keys : (s.custom.map Prod.fst).Nodup
  custom : ∀ entry ∈ s.custom, entry.2.Settled

theorem read_toJson {s : StatusSection} (h : s.Settled) :
    record.read (ofJson s.toJson) = .ok s := by
  have hcustom := readTable_ofJson (fun entry hentry => Reply.read_wrap (h.custom entry hentry)) h.keys
  refine Record.read_ofJson_object (by decide) rfl ?_
  exact Record.readItems_ofJson (Field.read_needed (Reply.read_wrap h.fallback) _ _) <|
    Record.readItems_ofJson (Field.read_defaulted hcustom _ _) rfl

end StatusSection

namespace BodyCase

def Settled (c : BodyCase) : Prop := c.reply.Settled

theorem read_toJson {c : BodyCase} (h : c.Settled) : record.read (ofJson c.toJson) = .ok c := by
  have hvalues := Node.list_ofJson (fun s (_ : s ∈ c.values) => readMatchValue_ofJson s)
    "a list of strings, numbers or booleans"
  refine Record.read_ofJson_object (by decide) rfl ?_
  exact Record.readItems_ofJson (Field.read_needed hvalues _ _) <|
    Record.readItems_ofJson (Field.read_needed (Reply.read_toJson h) _ _) rfl

end BodyCase

namespace BodyRule

def Settled (r : BodyRule) : Prop := ∀ c ∈ r.cases, c.Settled

end BodyRule

namespace BodySection

/-- Two rules may have the same locator. -/
structure Settled (s : BodySection) : Prop where
  fallback : s.fallback.Settled
  rules : ∀ rule ∈ s.rules, rule.Settled

theorem readRules_ofJson {rules : List BodyRule} (h : ∀ rule ∈ rules, rule.Settled) :
    readRules (ofJson (.object
      (rules.map fun r => (r.locator, .array (r.cases.map (·.toJson)))))) = .ok rules := by
  have hcases : ∀ rule ∈ rules, Node.list "a sequence" BodyCase.record.read
      (ofJson (.array (rule.cases.map (·.toJson)))) = .ok rule.cases :=
    fun rule hrule => Node.list_ofJson (fun c hc => BodyCase.read_toJson (h rule hrule c hc)) _
  rw [readRules, Node.entries_ofJson hcases]
  simp only [bind, Except.bind, pure, Except.pure, List.map_map]
  exact congrArg Except.ok (List.map_id rules)

theorem read_toJson {s : BodySection} (h : s.Settled) : record.read (ofJson s.toJson) = .ok s := by
  refine Record.read_ofJson_object (by decide) rfl ?_
  exact Record.readItems_ofJson (Field.read_needed (Reply.read_wrap h.fallback) _ _) <|
    Record.readItems_ofJson (Field.read_defaulted (readRules_ofJson h.rules) _ _) rfl

end BodySection

namespace ResponseTemplates

structure Settled (r : ResponseTemplates) : Prop where
  byStatus : ∀ s, r.byStatus = some s → s.Settled
  byBody : ∀ s, r.byBody = some s → s.Settled

theorem read_toJson {r : ResponseTemplates} (h : r.Settled) :
    record.read (ofJson r.toJson) = .ok r := by
  have hstatus := Node.optional_ofJson (fun _ => ⟨_, rfl⟩) fun s hs =>
    StatusSection.read_toJson (h.byStatus s hs)
  have hbody := Node.optional_ofJson (fun _ => ⟨_, rfl⟩) fun s hs =>
    BodySection.read_toJson (h.byBody s hs)
  refine Record.read_ofJson_object (by decide) rfl ?_
  exact Record.readItems_ofJson (Field.read_defaulted hstatus _ _) <|
    Record.readItems_ofJson (Field.read_defaulted hbody _ _) rfl

end ResponseTemplates

namespace Mapping

structure Settled (m : Mapping) : Prop where
  target : m.target.Settled
  request : m.request.Settled
  response : m.response.Settled

theorem read_toJson {m : Mapping} (h : m.Settled) : record.read (ofJson m.toJson) = .ok m := by
  have hstrategy : Node.variant Strategy.byName (ofJson (.string m.strategy.name)) =
      .ok m.strategy := by
    cases m.strategy <;> rfl
  refine Record.read_ofJson_object (by decide) rfl ?_
  exact Record.readItems_ofJson (Field.read_needed (Node.text_ofJson _) _ _) <|
    Record.readItems_ofJson (Field.read_defaulted hstrategy _ _) <|
    Record.readItems_ofJson (Field.read_needed (SourceContract.read_toJson _) _ _) <|
    Record.readItems_ofJson (Field.read_needed (TargetContract.read_toJson h.target) _ _) <|
    Record.readItems_ofJson (Field.read_defaulted (RequestTemplates.read_toJson h.request) _ _) <|
    Record.readItems_ofJson (Field.read_defaulted (ResponseTemplates.read_toJson h.response) _ _)
      rfl

end Mapping

namespace PluginBinding

theorem read_toJson (p : PluginBinding) : record.read (ofJson p.toJson) = .ok p := by
  refine Record.read_ofJson_object (by decide) rfl ?_
  exact Record.readItems_ofJson (Field.read_needed (Node.text_ofJson _) _ _) <|
    Record.readItems_ofJson (Field.read_defaulted (Node.text_ofJson _) _ _) <|
    Record.readItems_ofJson (Field.read_needed (Node.text_ofJson _) _ _) rfl

end PluginBinding

namespace Configuration

def Settled (c : Configuration) : Prop := ∀ m ∈ c.mappings, m.Settled

theorem ofDocument_toJson {c : Configuration} (h : c.Settled) :
    ofDocument (ofJson c.toJson) = .ok c := by
  have hmappings := Node.list_ofJson (fun m hm => Mapping.read_toJson (h m hm)) "a sequence"
  have hplugins := Node.list_ofJson (fun p (_ : p ∈ c.plugins) => p.read_toJson) "a sequence"
  refine Record.read_ofJson_object (by decide) rfl ?_
  exact Record.readItems_ofJson (Field.read_defaulted (Node.text_ofJson _) _ _) <|
    Record.readItems_ofJson (Field.read_defaulted (Settings.read_toJson _) _ _) <|
    Record.readItems_ofJson (Field.read_defaulted hmappings _ _) <|
    Record.readItems_ofJson (Field.read_defaulted hplugins _ _) rfl

end Configuration
end ApiMapping
