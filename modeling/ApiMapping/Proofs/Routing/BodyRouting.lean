import ApiMapping.Document.Values
import ApiMapping.Proofs.Config.BodyRules
import ApiMapping.Routing.Basic

/-!
# The reply that a field of the body decides

Rules and their cases are tried in the order in which the document declares them. The
first case that lists the text of its rule's field gives the reply, and the default is
left for the bodies that no case accepts.
-/

namespace ApiMapping
namespace Routing

/-- The outcome at the lexicographically least pair of positions that has one. -/
def First (outcomes : Nat → Nat → Outcome → Prop) (i j : Nat) (o : Outcome) : Prop :=
  outcomes i j o ∧ ∀ i' j' o', outcomes i' j' o' → i < i' ∨ i = i' ∧ j ≤ j'

namespace BodyRouter

/-- The case at `j` of a rule lists the text of the field that the rule selects. -/
def CaseApplies (document : Json) (rule : BodyRule) (j : Nat) (o : Outcome) : Prop :=
  ∃ field c, Template.select document rule.locator = some field ∧ rule.cases[j]? = some c ∧
    field.plainText ∈ c.values ∧
    o = ⟨c.reply.body, c.reply.status, .field rule.locator field.plainText⟩

/-- The case at `j` of the rule at `i` applies to a body and gives an outcome. -/
def Applies (r : BodyRouter) (body : Option Json) (i j : Nat) (o : Outcome) : Prop :=
  ∃ document rule, body = some document ∧ r.rules[i]? = some rule ∧
    CaseApplies document rule j o

variable {document : Json} {rule : BodyRule} {o : Outcome}

/-- A rule's outcome is that of its first case that applies. -/
theorem exists_case_of_outcome? (h : outcome? document rule = some o) :
    ∃ j, CaseApplies document rule j o ∧ ∀ k o', CaseApplies document rule k o' → j ≤ k := by
  obtain ⟨field, hfield, h⟩ := Option.bind_eq_some_iff.mp h
  obtain ⟨c, hfind, h⟩ := Option.bind_eq_some_iff.mp h
  obtain ⟨hc, j, hj, hget, hbefore⟩ := List.find?_eq_some_iff_getElem.mp hfind
  refine ⟨j, ⟨field, c, hfield, ?_, ?_, ?_⟩, ?_⟩
  · rw [List.getElem?_eq_getElem hj, hget]
  · simpa using hc
  · simpa using h.symm
  · rintro k o' ⟨field', c', hfield', hget', hc', -⟩
    rw [hfield, Option.some.injEq] at hfield'
    subst hfield'
    by_contra hk
    obtain ⟨hlt, hck⟩ := List.getElem?_eq_some_iff.mp hget'
    have hno := hbefore k (by omega)
    rw [hck] at hno
    simp [hc'] at hno

theorem not_caseApplies_of_outcome? (h : outcome? document rule = none) (j : Nat) (o : Outcome) :
    ¬ CaseApplies document rule j o := by
  rintro ⟨field, c, hfield, hget, hc, -⟩
  cases hfind : rule.cases.find? (fun c => c.values.contains field.plainText) with
  | none =>
    have hno := List.find?_eq_none.mp hfind c (List.mem_of_getElem? hget)
    simp [hc] at hno
  | some c' =>
    rw [outcome?, hfield] at h
    change (rule.cases.find? (fun c => c.values.contains field.plainText) >>= _) = none at h
    rw [hfind] at h
    cases h

/-- A router gives the outcome of the first case that applies, or its default if none does. -/
theorem route_spec (r : BodyRouter) (body : Option Json) :
    (∃ i j, First (r.Applies body) i j (r.route body)) ∨
      (∀ i j o, ¬ r.Applies body i j o) ∧
        r.route body = ⟨r.fallback.body, r.fallback.status, .fallback⟩ := by
  cases body with
  | none =>
    right
    refine ⟨?_, rfl⟩
    rintro i j o ⟨document, rule, hbody, -⟩
    cases hbody
  | some document =>
    cases hfound : r.rules.findSome? (outcome? document) with
    | none =>
      right
      constructor
      · rintro i j o ⟨document', rule, hbody, hrule, happlies⟩
        cases hbody
        have hnone := List.findSome?_eq_none_iff.mp hfound rule (List.mem_of_getElem? hrule)
        exact not_caseApplies_of_outcome? hnone j o happlies
      · simp [route, hfound]
    | some o =>
      left
      obtain ⟨before, rule, after, hrules, hrule, hbefore⟩ :=
        List.findSome?_eq_some_iff.mp hfound
      obtain ⟨j, happlies, hleast⟩ := exists_case_of_outcome? hrule
      have hroute : r.route (some document) = o := by simp [route, hfound]
      have hget : r.rules[before.length]? = some rule := by simp [hrules]
      refine ⟨before.length, j, ?_, ?_⟩
      · rw [hroute]
        exact ⟨document, rule, rfl, hget, happlies⟩
      · rintro i' j' o' ⟨document', rule', hbody, hget', happlies'⟩
        cases hbody
        rcases Nat.lt_trichotomy before.length i' with hlt | heq | hgt
        · exact Or.inl hlt
        · subst heq
          rw [hget, Option.some.injEq] at hget'
          subst hget'
          exact Or.inr ⟨rfl, hleast j' o' happlies'⟩
        · rw [hrules, List.getElem?_append_left hgt] at hget'
          have hnone := hbefore rule' (List.mem_of_getElem? hget')
          exact absurd happlies' (not_caseApplies_of_outcome? hnone j' o')

end BodyRouter

end Routing

namespace Declared
namespace Section

open Routing

/-- Some scalar that the case at `j` of the rule at `i` lists has the text of the field that
the rule selects from the body, and the case gives the outcome. -/
def Accepts (s : Section) (body : Option Json) (i j : Nat) (o : Outcome) : Prop :=
  ∃ document rule c field, body = some document ∧ s.rules[i]? = some rule ∧
    rule.cases[j]? = some c ∧ Template.select document rule.locator = some field ∧
    (∃ v ∈ c.values, v.plainText = field.plainText) ∧
    o = ⟨c.reply.body, c.reply.status, .field rule.locator field.plainText⟩

theorem applies_compile_iff {s : Section} {body : Option Json} {i j : Nat} {o : Outcome} :
    (BodyRouter.compile s.settled).Applies body i j o ↔ s.Accepts body i j o := by
  constructor
  · rintro ⟨document, rule', hbody, hrule, field, c', hfield, hcase, htext, ho⟩
    rw [BodyRouter.compile, settled, List.getElem?_map, Option.map_eq_some_iff] at hrule
    obtain ⟨rule, hrule, rfl⟩ := hrule
    rw [Rule.settled, List.getElem?_map, Option.map_eq_some_iff] at hcase
    obtain ⟨c, hcase, rfl⟩ := hcase
    exact ⟨document, rule, c, field, hbody, hrule, hcase, hfield, List.mem_map.mp htext, ho⟩
  · rintro ⟨document, rule, c, field, hbody, hrule, hcase, hfield, htext, ho⟩
    refine ⟨document, rule.settled, hbody, ?_, field, c.settled, hfield, ?_, ?_, ho⟩
    · rw [BodyRouter.compile, settled, List.getElem?_map, hrule, Option.map_some]
    · rw [Rule.settled, List.getElem?_map, hcase, Option.map_some]
    · exact List.mem_map.mpr htext

theorem accepts_of_listed {s : Section} {document field : Json} {i j : Nat} {rule : Rule}
    {c : Case} (hrule : s.rules[i]? = some rule) (hcase : rule.cases[j]? = some c)
    (hfield : Template.select document rule.locator = some field)
    (hlisted : field ∈ c.values ∨ .string field.plainText ∈ c.values) :
    ∃ o, s.Accepts (some document) i j o := by
  have htext : ∃ v ∈ c.values, v.plainText = field.plainText := by
    rcases hlisted with hself | htext
    · exact ⟨field, hself, rfl⟩
    · exact ⟨.string field.plainText, htext, rfl⟩
  exact ⟨_, document, rule, c, field, rfl, hrule, hcase, hfield, htext, rfl⟩

theorem matched_ne_fallback_of_accepts {s : Section} {body : Option Json} {i j : Nat} {o : Outcome}
    (h : s.Accepts body i j o) : o.matched ≠ .fallback := by
  obtain ⟨document, rule, c, field, -, -, -, -, -, rfl⟩ := h
  intro hmatched
  cases hmatched

theorem route_compile (s : Section) (body : Option Json) :
    (∃ i j, First (s.Accepts body) i j ((BodyRouter.compile s.settled).route body)) ∨
      (∀ i j o, ¬ s.Accepts body i j o) ∧ (BodyRouter.compile s.settled).route body =
        ⟨s.fallback.body, s.fallback.status, .fallback⟩ := by
  have haccepts : (BodyRouter.compile s.settled).Applies body = s.Accepts body := by
    funext i j o
    exact propext applies_compile_iff
  rw [← haccepts]
  exact BodyRouter.route_spec _ body

/-- Only a body that no case accepts is routed to the default. -/
theorem of_matched_fallback {s : Section} {body : Option Json}
    (h : ((BodyRouter.compile s.settled).route body).matched = .fallback) :
    (∀ i j o, ¬ s.Accepts body i j o) ∧ (BodyRouter.compile s.settled).route body =
      ⟨s.fallback.body, s.fallback.status, .fallback⟩ := by
  rcases s.route_compile body with ⟨i, j, hfirst⟩ | hfallback
  · exact absurd h (matched_ne_fallback_of_accepts hfirst.1)
  · exact hfallback

/-- What a router of a declared section owes to it. -/
structure Honoured (s : Section) (route : Option Json → Outcome) : Prop where
  /-- The least pair of positions that accepts a body decides. -/
  least : ∀ body, (∃ i j o, s.Accepts body i j o) → ∃ i j, First (s.Accepts body) i j (route body)
  fallback_iff : ∀ body, (route body).matched = .fallback ↔ ∀ i j o, ¬ s.Accepts body i j o
  fallback : ∀ body, (route body).matched = .fallback →
    route body = ⟨s.fallback.body, s.fallback.status, .fallback⟩
  absent : (route none).matched = .fallback
  /-- A field is accepted as one of the very scalars of a case, and as the text of one. -/
  listed : ∀ document i j rule c field, s.rules[i]? = some rule → rule.cases[j]? = some c →
    Template.select document rule.locator = some field →
    field ∈ c.values ∨ .string field.plainText ∈ c.values →
    ∃ o, s.Accepts (some document) i j o

/-- Read and compiled, a document routes every body as it declares. -/
theorem honoured_of_spelledBy {s : Section} {node : Document.Node} (h : s.SpelledBy node) :
    ∃ read, BodySection.record.read node = .ok read ∧
      s.Honoured (BodyRouter.compile read).route := by
  refine ⟨s.settled, h.read, ?_⟩
  exact
    { least := by
        rintro body ⟨i, j, o, haccepts⟩
        rcases s.route_compile body with hfirst | ⟨hno, -⟩
        · exact hfirst
        · exact absurd haccepts (hno i j o)
      fallback_iff := by
        intro body
        constructor
        · intro hmatched
          exact (of_matched_fallback hmatched).1
        · intro hno
          rcases s.route_compile body with ⟨i, j, hfirst⟩ | ⟨-, hfallback⟩
          · exact absurd hfirst.1 (hno i j _)
          · rw [hfallback]
      fallback := by
        intro body hmatched
        exact (of_matched_fallback hmatched).2
      absent := rfl
      listed := by
        intro document i j rule c field hrule hcase hfield hlisted
        exact accepts_of_listed hrule hcase hfield hlisted }

/-- Two rules of one locator and a default. -/
def sample : Section :=
  ⟨⟨500, .null⟩,
    [⟨"code", [⟨[Json.ofNat 20005, .string "ok"], ⟨200, .null⟩⟩]⟩,
      ⟨"code", [⟨[.bool true], ⟨404, .null⟩⟩]⟩]⟩

/-- The document of the sample. -/
def sampleDocument : Json :=
  let reply (status : Nat) := Json.object [("http_status_code", .ofNat status)]
  .object [
    ("custom", .object [
      ("code", .array [.object [
        ("values", .array [.ofNat 20005, .string "ok"]), ("response", reply 200)]]),
      ("code", .array [.object [("response", reply 404), ("values", .array [.bool true])]])]),
    ("default", .object [("response", reply 500)])]

theorem sample_spelledBy : sample.SpelledBy (Document.ofJson sampleDocument) := by
  refine .mapping rfl rfl rfl ?_ (List.Perm.swap _ _ _)
  refine .cons (.member rfl (.cons ?_ .nil)) (.cons (.member rfl (.cons ?_ .nil)) .nil)
  · refine .mapping rfl rfl ?_ rfl (List.Perm.refl _)
    exact .cons ⟨rfl, rfl⟩ (.cons ⟨rfl, rfl⟩ .nil)
  · refine .mapping rfl rfl ?_ rfl (List.Perm.swap _ _ _)
    exact .cons ⟨rfl, rfl⟩ .nil

theorem honoured_sampleDocument :
    sample.SpelledBy (Document.ofJson sampleDocument) ∧
      ∃ read, BodySection.record.read (Document.ofJson sampleDocument) = .ok read ∧
        sample.Honoured (BodyRouter.compile read).route :=
  ⟨sample_spelledBy, honoured_of_spelledBy sample_spelledBy⟩

end Section
end Declared
end ApiMapping
