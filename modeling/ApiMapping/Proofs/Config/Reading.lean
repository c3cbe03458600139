import ApiMapping.Proofs.Config.Writing

/-!
# Configurations that are read

What is read from a document is settled, and the text of it as it is written is nested no
deeper than the text that was read.
-/

namespace ApiMapping

open Document

variable {α : Type} {room : Nat} {node : Node}

/-! ## Fields -/

theorem nodup_of_readTable {read : Node → Except ReadError α} {table : List (String × α)}
    (h : readTable read node = .ok table) : (table.map Prod.fst).Nodup := by
  obtain ⟨entries, _, rfl⟩ := map_eq_ok_iff.mp h
  exact Node.nodup_collapse entries

theorem part_of_readTable {read : Node → Except ReadError α} {table : List (String × α)}
    (hfits : node.Fits (room + 1)) (h : readTable read node = .ok table) {entry : String × α}
    (hentry : entry ∈ table) : ∃ part, part.Fits room ∧ read part = .ok entry.2 := by
  obtain ⟨entries, hentries, rfl⟩ := map_eq_ok_iff.mp h
  exact hfits.of_entries hentries (Node.mem_of_mem_collapse hentry)

theorem object_of_readMembers {members : List (String × Json)} (hfits : node.Fits (room + 1))
    (h : readMembers node = .ok members) :
    (Json.object members).Distinct ∧ (Json.object members).Spellable (room + 1) := by
  have hparts : ∀ m ∈ members, m.2.Distinct ∧ m.2.Spellable room := by
    intro m hm
    obtain ⟨part, hpart, hread⟩ := part_of_readTable hfits h hm
    exact hpart.of_json hread
  exact ⟨Json.distinct_object.mpr ⟨nodup_of_readTable h, fun m hm => (hparts m hm).1⟩,
    Json.spellable_object.mpr fun m hm => (hparts m hm).2⟩

theorem eq_ok_of_map_some {x : Except ReadError α} {v : α} (h : some <$> x = .ok (some v)) :
    x = .ok v := by
  obtain ⟨w, hw, hsome⟩ := map_eq_ok_iff.mp h
  rwa [Option.some.inj hsome] at hw

theorem read_of_optional {read : Node → Except ReadError α} {v : α}
    (h : Node.optional read node = .ok (some v)) : read node = .ok v := by
  unfold Node.optional at h
  split at h
  · cases h
  · split at h
    · cases h
    · exact eq_ok_of_map_some h
  · split at h
    · split at h <;> cases h
    · exact eq_ok_of_map_some h
  · exact eq_ok_of_map_some h

/-! ## Records

Each record is gone through field by field: what the other fields brought is kept, and what
this field brings is as its reader says. The levels that a record needs for itself are those of
its blank form. -/

namespace Settings

theorem spellable_toJson (s : Settings) : s.toJson.Spellable (room + 1) := by
  simp [toJson, Json.spellable_ofNat, UInt64.toNat_lt_size]

end Settings

namespace SourceContract

theorem spellable_toJson (s : SourceContract) : s.toJson.Spellable (room + 1) := by
  simp [toJson]

end SourceContract

namespace TargetContract

theorem spellable_toJson_iff {t : TargetContract} :
    t.toJson.Spellable (room + 1) ↔ (Json.object t.headers).Spellable room := by
  simp [toJson]

theorem settled_blank : record.blank.Settled := Json.distinct_object.mpr ⟨List.nodup_nil, nofun⟩

theorem spellable_blank : record.blank.toJson.Spellable (room + 2) :=
  spellable_toJson_iff.mpr (Json.spellable_object.mpr nofun)

theorem settled_of_read {t : TargetContract} (hfits : node.Fits (room + 2))
    (h : record.read node = .ok t) : t.Settled ∧ t.toJson.Spellable (room + 2) := by
  rw [spellable_toJson_iff]
  refine Record.read_keeps hfits (P := fun t : TargetContract =>
    t.Settled ∧ (Json.object t.headers).Spellable (room + 1)) ?_ ?_ h
  · exact ⟨settled_blank, spellable_toJson_iff.mp spellable_blank⟩
  · simp only [record, List.forall_mem_cons]
    refine ⟨Field.keeps_needed ?_, Field.keeps_needed ?_, Field.keeps_defaulted ?_, nofun⟩
    · exact fun _ _ _ _ _ ht => ht
    · exact fun _ _ _ _ _ ht => ht
    · exact fun _ _ _ hpart hread _ => object_of_readMembers hpart hread

end TargetContract

namespace RequestTemplates

theorem spellable_toJson_iff {r : RequestTemplates} :
    r.toJson.Spellable (room + 1) ↔ (Json.object r.query).Spellable room ∧ r.body.Spellable room := by
  simp [toJson]

theorem settled_blank : record.blank.Settled :=
  ⟨Json.distinct_object.mpr ⟨List.nodup_nil, nofun⟩, (Json.everywhere_of_isLeaf rfl).mpr trivial⟩

theorem spellable_blank : record.blank.toJson.Spellable (room + 2) :=
  spellable_toJson_iff.mpr ⟨Json.spellable_object.mpr nofun, Json.spellable_null⟩

theorem settled_of_read {r : RequestTemplates} (hfits : node.Fits (room + 2))
    (h : record.read node = .ok r) : r.Settled ∧ r.toJson.Spellable (room + 2) := by
  rw [spellable_toJson_iff]
  refine Record.read_keeps hfits (P := fun r : RequestTemplates =>
    r.Settled ∧ (Json.object r.query).Spellable (room + 1) ∧ r.body.Spellable (room + 1)) ?_ ?_ h
  · exact ⟨settled_blank, spellable_toJson_iff.mp spellable_blank⟩
  · simp only [record, List.forall_mem_cons]
    refine ⟨Field.keeps_defaulted ?_, Field.keeps_defaulted ?_, nofun⟩
    · rintro part query r hpart hread ⟨hsettled, -, hbody⟩
      obtain ⟨hdistinct, hspellable⟩ := object_of_readMembers hpart hread
      exact ⟨⟨hdistinct, hsettled.body⟩, hspellable, hbody⟩
    · rintro part body r hpart hread ⟨hsettled, hquery, -⟩
      obtain ⟨hdistinct, hspellable⟩ := hpart.of_json hread
      exact ⟨⟨hsettled.query, hdistinct⟩, hquery, hspellable⟩

end RequestTemplates

namespace Reply

theorem spellable_toJson_iff {r : Reply} :
    r.toJson.Spellable (room + 1) ↔ r.body.Spellable room := by
  have hstatus : (Json.ofNat r.status.toNat).Spellable room :=
    Json.spellable_ofNat (Nat.lt_trans r.status.toNat_lt_size (by decide : UInt16.size < UInt64.size))
  simp [toJson, hstatus]

theorem spellable_wrap_iff {r : Reply} :
    r.wrap.Spellable (room + 1) ↔ r.toJson.Spellable room := by
  simp [wrap]

theorem settled_blank : record.blank.Settled := (Json.everywhere_of_isLeaf rfl).mpr trivial

theorem spellable_blank : record.blank.toJson.Spellable (room + 1) :=
  spellable_toJson_iff.mpr Json.spellable_null

theorem settled_of_read {r : Reply} (hfits : node.Fits (room + 1))
    (h : record.read node = .ok r) : r.Settled ∧ r.toJson.Spellable (room + 1) := by
  rw [spellable_toJson_iff]
  refine Record.read_keeps hfits (P := fun r : Reply => r.Settled ∧ r.body.Spellable room)
    ?_ ?_ h
  · exact ⟨settled_blank, Json.spellable_null⟩
  · simp only [record, List.forall_mem_cons]
    refine ⟨Field.keeps_defaulted ?_, Field.keeps_defaulted ?_, nofun⟩
    · exact fun _ _ _ _ _ hr => hr
    · exact fun _ _ _ hpart hread _ => hpart.of_json hread

theorem settled_of_read_wrapped {r : Reply} (hfits : node.Fits (room + 2))
    (h : wrapped.read node = .ok r) : r.Settled ∧ r.wrap.Spellable (room + 2) := by
  rw [spellable_wrap_iff]
  refine Record.read_keeps hfits (P := fun r : Reply =>
    r.Settled ∧ r.toJson.Spellable (room + 1)) ?_ ?_ h
  · exact ⟨settled_blank, spellable_blank⟩
  · simp only [wrapped, List.forall_mem_cons]
    exact ⟨Field.keeps_needed fun _ _ _ hpart hread _ => settled_of_read hpart hread, nofun⟩

end Reply

namespace StatusSection

theorem spellable_toJson_iff {s : StatusSection} :
    s.toJson.Spellable (room + 2) ↔ s.fallback.wrap.Spellable (room + 1) ∧
      ∀ entry ∈ s.custom, entry.2.wrap.Spellable room := by
  simp [toJson, List.forall_mem_map, -List.mem_map, -Prod.forall]

theorem settled_of_read {s : StatusSection} (hfits : node.Fits (room + 4))
    (h : record.read node = .ok s) : s.Settled ∧ s.toJson.Spellable (room + 4) := by
  rw [spellable_toJson_iff]
  refine Record.read_keeps hfits (P := fun s : StatusSection => s.Settled ∧
    s.fallback.wrap.Spellable (room + 3) ∧ ∀ entry ∈ s.custom, entry.2.wrap.Spellable (room + 2)) ?_ ?_ h
  · exact ⟨⟨Reply.settled_blank, List.nodup_nil, nofun⟩,
      Reply.spellable_wrap_iff.mpr Reply.spellable_blank, nofun⟩
  · simp only [record, List.forall_mem_cons]
    refine ⟨Field.keeps_needed ?_, Field.keeps_defaulted ?_, nofun⟩
    · rintro part reply s hpart hread ⟨hsettled, -, hcustom⟩
      obtain ⟨hreply, hspellable⟩ := Reply.settled_of_read_wrapped hpart hread
      exact ⟨⟨hreply, hsettled.keys, hsettled.custom⟩, hspellable, hcustom⟩
    · rintro part custom s hpart hread ⟨hsettled, hfallback, -⟩
      have hentries : ∀ entry ∈ custom, entry.2.Settled ∧ entry.2.wrap.Spellable (room + 2) := by
        intro entry hentry
        obtain ⟨reply, hreply, hreadReply⟩ := part_of_readTable hpart hread hentry
        exact Reply.settled_of_read_wrapped hreply hreadReply
      exact ⟨⟨hsettled.fallback, nodup_of_readTable hread, fun e he => (hentries e he).1⟩,
        hfallback, fun e he => (hentries e he).2⟩

end StatusSection

namespace BodyCase

theorem spellable_toJson_iff {c : BodyCase} :
    c.toJson.Spellable (room + 2) ↔ c.reply.toJson.Spellable (room + 1) := by
  simp [toJson]

theorem settled_of_read {c : BodyCase} (hfits : node.Fits (room + 2))
    (h : record.read node = .ok c) : c.Settled ∧ c.toJson.Spellable (room + 2) := by
  rw [spellable_toJson_iff]
  refine Record.read_keeps hfits (P := fun c : BodyCase =>
    c.Settled ∧ c.reply.toJson.Spellable (room + 1)) ?_ ?_ h
  · exact ⟨Reply.settled_blank, Reply.spellable_blank⟩
  · simp only [record, List.forall_mem_cons]
    refine ⟨Field.keeps_needed ?_, Field.keeps_needed ?_, nofun⟩
    · exact fun _ _ _ _ _ hc => hc
    · exact fun _ _ _ hpart hread _ => Reply.settled_of_read hpart hread

end BodyCase

namespace BodySection

theorem spellable_toJson_iff {s : BodySection} :
    s.toJson.Spellable (room + 3) ↔ s.fallback.wrap.Spellable (room + 2) ∧
      ∀ rule ∈ s.rules, ∀ c ∈ rule.cases, c.toJson.Spellable room := by
  simp [toJson]

theorem cases_of_readRules {rules : List BodyRule} (hfits : node.Fits (room + 4))
    (h : readRules node = .ok rules) :
    ∀ rule ∈ rules, ∀ c ∈ rule.cases, c.Settled ∧ c.toJson.Spellable (room + 2) := by
  obtain ⟨entries, hentries, hrules⟩ := bind_eq_ok_iff.mp h
  obtain rfl := Except.ok.inj hrules
  intro rule hrule c hc
  obtain ⟨entry, hentry, rfl⟩ := List.mem_map.mp hrule
  obtain ⟨part, hpart, hread⟩ := hfits.of_entries hentries hentry
  obtain ⟨item, hitem, hreadCase⟩ := hpart.of_list hread hc
  exact BodyCase.settled_of_read hitem hreadCase

theorem settled_of_read {s : BodySection} (hfits : node.Fits (room + 5))
    (h : record.read node = .ok s) : s.Settled ∧ s.toJson.Spellable (room + 5) := by
  rw [spellable_toJson_iff]
  refine Record.read_keeps hfits (P := fun s : BodySection => s.Settled ∧
    s.fallback.wrap.Spellable (room + 4) ∧
      ∀ rule ∈ s.rules, ∀ c ∈ rule.cases, c.toJson.Spellable (room + 2)) ?_ ?_ h
  · exact ⟨⟨Reply.settled_blank, nofun⟩,
      Reply.spellable_wrap_iff.mpr Reply.spellable_blank, nofun⟩
  · simp only [record, List.forall_mem_cons]
    refine ⟨Field.keeps_needed ?_, Field.keeps_defaulted ?_, nofun⟩
    · rintro part reply s hpart hread ⟨hsettled, -, hrules⟩
      obtain ⟨hreply, hspellable⟩ := Reply.settled_of_read_wrapped hpart hread
      exact ⟨⟨hreply, hsettled.rules⟩, hspellable, hrules⟩
    · rintro part rules s hpart hread ⟨hsettled, hfallback, -⟩
      have hcases := cases_of_readRules hpart hread
      exact ⟨⟨hsettled.fallback, fun rule hrule c hc => (hcases rule hrule c hc).1⟩,
        hfallback, fun rule hrule c hc => (hcases rule hrule c hc).2⟩

end BodySection

namespace ResponseTemplates

theorem spellable_toJson_iff {r : ResponseTemplates} :
    r.toJson.Spellable (room + 1) ↔
      (∀ s, r.byStatus = some s → s.toJson.Spellable room) ∧
        ∀ s, r.byBody = some s → s.toJson.Spellable room := by
  cases hstatus : r.byStatus <;> cases hbody : r.byBody <;> simp [toJson, hstatus, hbody]

theorem settled_blank : record.blank.Settled := ⟨nofun, nofun⟩

theorem spellable_blank : record.blank.toJson.Spellable (room + 1) :=
  spellable_toJson_iff.mpr ⟨nofun, nofun⟩

theorem settled_of_read {r : ResponseTemplates} (hfits : node.Fits (room + 6))
    (h : record.read node = .ok r) : r.Settled ∧ r.toJson.Spellable (room + 6) := by
  rw [spellable_toJson_iff]
  refine Record.read_keeps hfits (P := fun r : ResponseTemplates => r.Settled ∧
    (∀ s, r.byStatus = some s → s.toJson.Spellable (room + 5)) ∧
      ∀ s, r.byBody = some s → s.toJson.Spellable (room + 5)) ?_ ?_ h
  · exact ⟨settled_blank, spellable_toJson_iff.mp spellable_blank⟩
  · simp only [record, List.forall_mem_cons]
    refine ⟨Field.keeps_defaulted ?_, Field.keeps_defaulted ?_, nofun⟩
    · rintro part byStatus r hpart hread ⟨hsettled, -, hbody⟩
      have hsection := fun s (hs : byStatus = some s) =>
        StatusSection.settled_of_read hpart (read_of_optional (hs ▸ hread))
      exact ⟨⟨fun s hs => (hsection s hs).1, hsettled.byBody⟩, fun s hs => (hsection s hs).2, hbody⟩
    · rintro part byBody r hpart hread ⟨hsettled, hstatus, -⟩
      have hsection := fun s (hs : byBody = some s) =>
        BodySection.settled_of_read hpart (read_of_optional (hs ▸ hread))
      exact ⟨⟨hsettled.byStatus, fun s hs => (hsection s hs).1⟩, hstatus,
        fun s hs => (hsection s hs).2⟩

end ResponseTemplates

namespace Mapping

theorem spellable_toJson_iff {m : Mapping} :
    m.toJson.Spellable (room + 2) ↔ m.target.toJson.Spellable (room + 1) ∧
      m.request.toJson.Spellable (room + 1) ∧ m.response.toJson.Spellable (room + 1) := by
  simp [toJson, SourceContract.spellable_toJson]

theorem settled_of_read {m : Mapping} (hfits : node.Fits (room + 7))
    (h : record.read node = .ok m) : m.Settled ∧ m.toJson.Spellable (room + 7) := by
  rw [spellable_toJson_iff]
  refine Record.read_keeps hfits (P := fun m : Mapping => m.Settled ∧
    m.target.toJson.Spellable (room + 6) ∧ m.request.toJson.Spellable (room + 6) ∧
      m.response.toJson.Spellable (room + 6)) ?_ ?_ h
  · exact ⟨⟨TargetContract.settled_blank, RequestTemplates.settled_blank,
      ResponseTemplates.settled_blank⟩, TargetContract.spellable_blank,
      RequestTemplates.spellable_blank, ResponseTemplates.spellable_blank⟩
  · simp only [record, List.forall_mem_cons]
    refine ⟨Field.keeps_needed ?_, Field.keeps_defaulted ?_, Field.keeps_needed ?_,
      Field.keeps_needed ?_, Field.keeps_defaulted ?_, Field.keeps_defaulted ?_, nofun⟩
    · exact fun _ _ _ _ _ hm => ⟨⟨hm.1.target, hm.1.request, hm.1.response⟩, hm.2⟩
    · exact fun _ _ _ _ _ hm => ⟨⟨hm.1.target, hm.1.request, hm.1.response⟩, hm.2⟩
    · exact fun _ _ _ _ _ hm => ⟨⟨hm.1.target, hm.1.request, hm.1.response⟩, hm.2⟩
    · rintro part target m hpart hread ⟨hsettled, -, hrequest, hresponse⟩
      obtain ⟨htarget, hspellable⟩ := TargetContract.settled_of_read hpart hread
      exact ⟨⟨htarget, hsettled.request, hsettled.response⟩, hspellable, hrequest, hresponse⟩
    · rintro part request m hpart hread ⟨hsettled, htarget, -, hresponse⟩
      obtain ⟨hrequest, hspellable⟩ := RequestTemplates.settled_of_read hpart hread
      exact ⟨⟨hsettled.target, hrequest, hsettled.response⟩, htarget, hspellable, hresponse⟩
    · rintro part response m hpart hread ⟨hsettled, htarget, hrequest, -⟩
      obtain ⟨hresponse, hspellable⟩ := ResponseTemplates.settled_of_read hpart hread
      exact ⟨⟨hsettled.target, hsettled.request, hresponse⟩, htarget, hrequest, hspellable⟩

end Mapping

namespace PluginBinding

theorem spellable_toJson (p : PluginBinding) : p.toJson.Spellable (room + 1) := by
  simp [toJson]

end PluginBinding

namespace Configuration

theorem spellable_toJson_iff {c : Configuration} :
    c.toJson.Spellable (room + 3) ↔ ∀ m ∈ c.mappings, m.toJson.Spellable (room + 1) := by
  simp [toJson, Settings.spellable_toJson, PluginBinding.spellable_toJson]

theorem settled_of_ofDocument {c : Configuration} (hfits : node.Fits (room + 9))
    (h : ofDocument node = .ok c) : c.Settled ∧ c.toJson.Spellable (room + 9) := by
  rw [spellable_toJson_iff]
  refine Record.read_keeps hfits (P := fun c : Configuration =>
    c.Settled ∧ ∀ m ∈ c.mappings, m.toJson.Spellable (room + 7)) ?_ ?_ h
  · exact ⟨fun _ hm => absurd hm List.not_mem_nil, fun _ hm => absurd hm List.not_mem_nil⟩
  simp only [record, List.forall_mem_cons]
  refine ⟨Field.keeps_defaulted ?_, Field.keeps_defaulted ?_, Field.keeps_defaulted ?_,
    Field.keeps_defaulted ?_, nofun⟩
  · exact fun _ _ _ _ _ hc => hc
  · exact fun _ _ _ _ _ hc => hc
  · rintro part mappings c hpart hread -
    have hmappings : ∀ m ∈ mappings, m.Settled ∧ m.toJson.Spellable (room + 7) := by
      intro m hm
      obtain ⟨item, hitem, hreadMapping⟩ := hpart.of_list hread hm
      exact Mapping.settled_of_read hitem hreadMapping
    exact ⟨fun m hm => (hmappings m hm).1, fun m hm => (hmappings m hm).2⟩
  · exact fun _ _ _ _ _ hc => hc

end Configuration
end ApiMapping
