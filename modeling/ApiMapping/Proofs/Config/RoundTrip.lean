import ApiMapping.Config.Loading
import ApiMapping.Proofs.Config.Reading
import ApiMapping.Proofs.Json.Reading

/-!
# Configurations written and read again

Writing a configuration and reading the text gives the same configuration, if the texts of its
binary numbers are read as these numbers. A text that was read can therefore be replaced by what is
written of it: scalars that cases are compared by have become texts, fields that were not there have
their blank values, and nothing else has changed. The reader scales the digits of a number by a
power of ten and may so miss the number by some last places. Of a configuration with such numbers
nothing but these is changed.
-/

namespace ApiMapping

open Json

/-! ## Exchanging numbers

Only templates hold binary numbers, so each record with templates has one definition and two facts:
what is written of it is exchanged as well, and it stays settled. -/

section MapReals

variable (f : Number.Binary64 → Number.Binary64)

namespace TargetContract

def mapReals (t : TargetContract) : TargetContract := { t with headers := mapMembers f t.headers }

@[simp] theorem toJson_mapReals (t : TargetContract) :
    (t.mapReals f).toJson = t.toJson.mapReals f := rfl

theorem Settled.mapReals {t : TargetContract} (h : t.Settled) : (t.mapReals f).Settled :=
  distinct_mapReals f h

end TargetContract

namespace RequestTemplates

def mapReals (r : RequestTemplates) : RequestTemplates :=
  ⟨mapMembers f r.query, r.body.mapReals f⟩

@[simp] theorem toJson_mapReals (r : RequestTemplates) :
    (r.mapReals f).toJson = r.toJson.mapReals f := rfl

theorem Settled.mapReals {r : RequestTemplates} (h : r.Settled) : (r.mapReals f).Settled :=
  ⟨distinct_mapReals f h.query, distinct_mapReals f h.body⟩

end RequestTemplates

namespace Reply

def mapReals (r : Reply) : Reply := { r with body := r.body.mapReals f }

@[simp] theorem toJson_mapReals (r : Reply) : (r.mapReals f).toJson = r.toJson.mapReals f := rfl

@[simp] theorem wrap_mapReals (r : Reply) : (r.mapReals f).wrap = r.wrap.mapReals f := rfl

theorem Settled.mapReals {r : Reply} (h : r.Settled) : (r.mapReals f).Settled :=
  distinct_mapReals f h

end Reply

namespace StatusSection

def mapReals (s : StatusSection) : StatusSection where
  fallback := s.fallback.mapReals f
  custom := s.custom.map fun entry => (entry.1, entry.2.mapReals f)

@[simp] theorem toJson_mapReals (s : StatusSection) :
    (s.mapReals f).toJson = s.toJson.mapReals f := by
  simp [toJson, mapReals]

theorem Settled.mapReals {s : StatusSection} (h : s.Settled) : (s.mapReals f).Settled where
  fallback := h.fallback.mapReals f
  keys := by
    rw [StatusSection.mapReals, List.map_map]
    exact h.keys
  custom entry hentry := by
    obtain ⟨e, he, rfl⟩ := List.mem_map.mp hentry
    exact (h.custom e he).mapReals f

end StatusSection

namespace BodyCase

def mapReals (c : BodyCase) : BodyCase := { c with reply := c.reply.mapReals f }

@[simp] theorem toJson_mapReals (c : BodyCase) : (c.mapReals f).toJson = c.toJson.mapReals f := by
  simp [toJson, mapReals]

end BodyCase

namespace BodySection

def mapReals (s : BodySection) : BodySection where
  fallback := s.fallback.mapReals f
  rules := s.rules.map fun rule => ⟨rule.locator, rule.cases.map (·.mapReals f)⟩

@[simp] theorem toJson_mapReals (s : BodySection) :
    (s.mapReals f).toJson = s.toJson.mapReals f := by
  simp [toJson, mapReals]

theorem Settled.mapReals {s : BodySection} (h : s.Settled) : (s.mapReals f).Settled where
  fallback := h.fallback.mapReals f
  rules rule hrule c hc := by
    obtain ⟨r, hr, rfl⟩ := List.mem_map.mp hrule
    obtain ⟨d, hd, rfl⟩ := List.mem_map.mp hc
    exact (h.rules r hr d hd).mapReals f

end BodySection

namespace ResponseTemplates

def mapReals (r : ResponseTemplates) : ResponseTemplates :=
  ⟨r.byStatus.map (·.mapReals f), r.byBody.map (·.mapReals f)⟩

@[simp] theorem toJson_mapReals (r : ResponseTemplates) :
    (r.mapReals f).toJson = r.toJson.mapReals f := by
  obtain ⟨byStatus, byBody⟩ := r
  cases byStatus <;> cases byBody <;> simp [toJson, mapReals]

theorem Settled.mapReals {r : ResponseTemplates} (h : r.Settled) : (r.mapReals f).Settled where
  byStatus s hs := by
    obtain ⟨t, ht, rfl⟩ := Option.map_eq_some_iff.mp hs
    exact (h.byStatus t ht).mapReals f
  byBody s hs := by
    obtain ⟨t, ht, rfl⟩ := Option.map_eq_some_iff.mp hs
    exact (h.byBody t ht).mapReals f

end ResponseTemplates

namespace Mapping

def mapReals (m : Mapping) : Mapping :=
  { m with
    target := m.target.mapReals f
    request := m.request.mapReals f
    response := m.response.mapReals f }

@[simp] theorem toJson_mapReals (m : Mapping) : (m.mapReals f).toJson = m.toJson.mapReals f := by
  simp [toJson, mapReals, SourceContract.toJson]

theorem Settled.mapReals {m : Mapping} (h : m.Settled) : (m.mapReals f).Settled :=
  ⟨h.target.mapReals f, h.request.mapReals f, h.response.mapReals f⟩

end Mapping

namespace Configuration

def mapReals (c : Configuration) : Configuration :=
  { c with mappings := c.mappings.map (·.mapReals f) }

theorem toJson_mapReals (c : Configuration) : (c.mapReals f).toJson = c.toJson.mapReals f := by
  simp [toJson, mapReals, Settings.toJson, PluginBinding.toJson]

theorem Settled.mapReals {c : Configuration} (h : c.Settled) : (c.mapReals f).Settled := by
  intro m hm
  obtain ⟨n, hn, rfl⟩ := List.mem_map.mp hm
  exact (h n hn).mapReals f

end Configuration

end MapReals

/-! ## Written and read -/

namespace Configuration

/-- A configuration whose tables have one value to each name, and whose numbers are of 64 bits. -/
structure Representable (c : Configuration) : Prop where
  settled : c.Settled
  numbers : Everywhere NumberProper c.toJson

/-- Texts and configurations say the same to each other. -/
structure RoundTrips : Prop where
  /-- What is written is read as it was, if it is not nested too deeply for a document and its
  binary numbers are read as they were. -/
  written : ∀ c : Configuration, c.Representable → c.toJson.depth < 128 →
    c.toJson.RealsReadAs id → ofText .json c.toJson.text = .ok c
  /-- Where binary numbers are read as other ones, everything else is read as it was. -/
  kept : ∀ (c : Configuration) (f : Number.Binary64 → Number.Binary64), c.Representable →
    c.toJson.depth < 128 → c.toJson.RealsReadAs f →
    ofText .json c.toJson.text = .ok (c.mapReals f)
  /-- Whatever text was read, the configuration can be written. -/
  read : ∀ (s : String) (c : Configuration), ofText .json s = .ok c →
    c.Representable ∧ c.toJson.depth < 128
  /-- Reading what was written of a text gives what the text gave. -/
  reread : ∀ (s : String) (c : Configuration), ofText .json s = .ok c →
    c.toJson.RealsReadAs id → ofText .json c.toJson.text = .ok c

variable {c : Configuration}

theorem ofText_toJson {f : Number.Binary64 → Number.Binary64} (hc : c.Representable)
    (hdepth : c.toJson.depth < 128) (hreals : c.toJson.RealsReadAs f) :
    ofText .json c.toJson.text = .ok (c.mapReals f) := by
  have hlegible : c.toJson.Legible f usableDepth :=
    ⟨⟨hc.numbers, Nat.le_of_lt_succ hdepth⟩, hreals⟩
  rw [ofText, TextFormat.decode, decode_text hlegible, ← toJson_mapReals,
    ofDocument_toJson (hc.settled.mapReals f)]
  rfl

/-- What is written of a settled configuration determines it. -/
theorem mapReals_id (hc : c.Settled) : c.mapReals id = c := by
  have hread := ofDocument_toJson (hc.mapReals id)
  rw [toJson_mapReals, Json.mapReals_id, ofDocument_toJson hc] at hread
  exact (Except.ok.inj hread).symm

theorem representable_of_ofText {s : String} (h : ofText .json s = .ok c) :
    c.Representable ∧ c.toJson.depth < 128 := by
  have hdecode : decode ofDocument s = .ok c := by
    change (decode ofDocument s).mapError _ = .ok c at h
    cases hresult : decode ofDocument s with
    | error e =>
      rw [hresult] at h
      cases h
    | ok b =>
      rw [hresult] at h
      rw [Except.ok.inj h]
  have hfits : Document.Node.Fits (118 + 9) (readDocument s.toList).node :=
    fits_readDocument s.toList
  obtain ⟨hsettled, hnumbers, hshallow⟩ := settled_of_ofDocument hfits (read_of_decode hdecode)
  exact ⟨⟨hsettled, hnumbers⟩, Nat.lt_succ_of_le hshallow⟩

theorem ofText_toJson_of_readAs_id (hc : c.Representable) (hdepth : c.toJson.depth < 128)
    (hreals : c.toJson.RealsReadAs id) : ofText .json c.toJson.text = .ok c := by
  rw [ofText_toJson hc hdepth hreals, mapReals_id hc.settled]

theorem roundTrips : RoundTrips where
  written _ := ofText_toJson_of_readAs_id
  kept _ _ := ofText_toJson
  read _ _ := representable_of_ofText
  reread _ _ h := by
    obtain ⟨hc, hdepth⟩ := representable_of_ofText h
    exact ofText_toJson_of_readAs_id hc hdepth

/-- A half, and one and a quarter. -/
def half : Number.Binary64 := ⟨false, Nat.pow 2 52, -53⟩

def fiveQuarters : Number.Binary64 := ⟨false, 5 * Nat.pow 2 50, -52⟩

/-- A document with numbers among values and in templates, and with two rules for one field. -/
def swapDocument : Json := .object [("apiMappings", .array [.object [
  ("name", .string "swap"),
  ("responseMappingType", .string "byBodyResponse"),
  ("source", .object [("url", .string "/swap"), ("method", .string "POST")]),
  ("target", .object [("url", .string "http://t/"), ("method", .string "POST"),
    ("headers", .object [("X-Rate", .number (.real half))])]),
  ("requestMapping", .object [("requestBody", .object [
    ("rates", .array [.null, .number (.real fiveQuarters)]), ("id", .string "src:req:body|id")])]),
  ("responseMapping", .object [("byBodyResponse", .object [
    ("default", .object [("response", .object [])]),
    ("custom", .object [
      ("code", .array [.object [("values", .array [Json.ofNat 7, .bool true]),
        ("response", .object [("http_status_code", Json.ofNat 409)])]]),
      ("state", .array []),
      ("code", .array [.object [("values", .array [.string "x"]),
        ("response", .object [("json_body", Json.ofNat 3)])]])])])])]])]

/-- What the document is read as. -/
def swapConfiguration : Configuration := { Configuration.default with
  mappings := [
    { name := "swap"
      strategy := .byBody
      source := ⟨"/swap", "POST"⟩
      target := ⟨"http://t/", "POST", [("X-Rate", .number (.real half))]⟩
      request := ⟨[], .object [("rates", .array [.null, .number (.real fiveQuarters)]),
        ("id", .string "src:req:body|id")]⟩
      response := ⟨none, some ⟨⟨200, .null⟩, [
        ⟨"code", [⟨["7", "true"], ⟨409, .null⟩⟩]⟩,
        ⟨"state", []⟩,
        ⟨"code", [⟨["x"], ⟨200, Json.ofNat 3⟩⟩]⟩]⟩⟩ }] }

/-- Short numbers are read back. -/
theorem half_readAs : half.ReadAs half :=
  readAs_of_short ⟨by decide, by decide, by decide, by decide⟩
    (.inr ⟨by decide, by decide, by decide⟩)

theorem fiveQuarters_readAs : fiveQuarters.ReadAs fiveQuarters :=
  readAs_of_short ⟨by decide, by decide, by decide, by decide⟩
    (.inr ⟨by decide, by decide, by decide⟩)

theorem swapDocument_legible : swapDocument.Legible id usableDepth where
  spellable := by
    have hhalf (room : Nat) : (Json.number (.real half)).Spellable room :=
      spellable_number.mpr ⟨by decide, by decide, by decide, by decide⟩
    have hfive (room : Nat) : (Json.number (.real fiveQuarters)).Spellable room :=
      spellable_number.mpr ⟨by decide, by decide, by decide, by decide⟩
    have hnat (room n : Nat) (h : n < 1000) : (Json.ofNat n).Spellable room :=
      spellable_ofNat (Nat.lt_trans h (by decide))
    simp [swapDocument, usableDepth, hhalf, hfive, hnat]
  reals := by simp [swapDocument, realsReadAs_real, half_readAs, fiveQuarters_readAs]

theorem swapConfiguration_realsReadAs : swapConfiguration.toJson.RealsReadAs id := by
  simp [swapConfiguration, Configuration.default, toJson, Settings.toJson, Mapping.toJson,
    SourceContract.toJson, TargetContract.toJson, RequestTemplates.toJson,
    ResponseTemplates.toJson, BodySection.toJson, BodyCase.toJson, Reply.wrap, Reply.toJson,
    realsReadAs_real, half_readAs, fiveQuarters_readAs]

theorem roundTrips_swap : ofText .json swapDocument.text = .ok swapConfiguration ∧
    (swapConfiguration.Representable ∧ swapConfiguration.toJson.depth < 128) ∧
    swapConfiguration.toJson.RealsReadAs id ∧
    ofText .json swapConfiguration.toJson.text = .ok swapConfiguration := by
  have hread : ofText .json swapDocument.text = .ok swapConfiguration := by
    rw [ofText, TextFormat.decode, decode_text swapDocument_legible, Json.mapReals_id]
    rfl
  exact ⟨hread, roundTrips.read _ _ hread, swapConfiguration_realsReadAs,
    roundTrips.reread _ _ hread swapConfiguration_realsReadAs⟩

end Configuration
end ApiMapping
