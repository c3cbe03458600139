import ApiMapping.Config.Validation
import ApiMapping.Proofs.Success
import Mathlib.Data.List.Nodup

/-!
# Which configurations pass the check

The check goes through the entries one by one and keeps what it has seen. It passes if every
entry passes a check of its own and no two of them claim the same, so the order of the
entries does not matter.
-/

namespace ApiMapping

namespace Mapping

variable {m : Mapping}

theorem checkReply_eq_ok_iff {reply : Reply} :
    m.checkReply reply = .ok () ↔ isReplyStatus reply.status = true := by
  unfold checkReply
  split <;> simp_all

theorem checkKey_eq_ok_iff {key : String} {code : UInt16} :
    m.checkKey key = .ok code ↔ statusOfKey? key = some code := by
  unfold checkKey
  split <;> simp_all

theorem checkStatusSection_eq_ok_iff {s : StatusSection} :
    m.checkStatusSection s = .ok () ↔ isReplyStatus s.fallback.status = true ∧
      ∀ entry ∈ s.custom, (∃ code, statusOfKey? entry.1 = some code) ∧
        isReplyStatus entry.2.status = true := by
  unfold checkStatusSection
  rw [andThen_eq_ok_iff, checkReply_eq_ok_iff, forM_eq_ok_iff]
  simp only [bind_eq_ok_iff, checkKey_eq_ok_iff, checkReply_eq_ok_iff, exists_and_right]

theorem checkBodySection_eq_ok_iff {s : BodySection} :
    m.checkBodySection s = .ok () ↔ isReplyStatus s.fallback.status = true ∧
      ∀ rule ∈ s.rules, ∀ c ∈ rule.cases, isReplyStatus c.reply.status = true := by
  simp only [checkBodySection, andThen_eq_ok_iff, forM_eq_ok_iff, checkReply_eq_ok_iff]

theorem checkSection_of_byStatus (h : m.strategy = .byStatus) :
    m.checkSection = match m.response.byStatus with
      | some s => m.checkStatusSection s
      | none => .error (.missingRouting m.name .byStatus) := by
  unfold checkSection
  rw [h]
  cases m.response.byStatus <;> rfl

theorem checkSection_of_byBody (h : m.strategy = .byBody) :
    m.checkSection = match m.response.byBody with
      | some s => m.checkBodySection s
      | none => .error (.missingRouting m.name .byBody) := by
  unfold checkSection
  rw [h]
  cases m.response.byBody <;> rfl

/-- The section that the strategy selects is there and passes. -/
inductive SectionPasses (m : Mapping) : Prop where
  | byStatus {s : StatusSection} : m.strategy = .byStatus → m.response.byStatus = some s →
    m.checkStatusSection s = .ok () → SectionPasses m
  | byBody {s : BodySection} : m.strategy = .byBody → m.response.byBody = some s →
    m.checkBodySection s = .ok () → SectionPasses m

theorem sectionPasses_of_checkSection (h : m.checkSection = .ok ()) : m.SectionPasses := by
  unfold checkSection at h
  split at h
  · rename_i s hstrategy hsection
    exact .byStatus hstrategy hsection h
  · rename_i s hstrategy hsection
    exact .byBody hstrategy hsection h
  · cases h

theorem check_eq_ok_iff : m.check = .ok () ↔ m.checkTexts = .ok () ∧ m.checkSection = .ok () :=
  andThen_eq_ok_iff

end Mapping

namespace Configuration

/-- A key that has been seen ends the pass. -/
theorem unlessSeen_eq_ok_iff {κ : Type} [BEq κ] [LawfulBEq κ] {seen : List κ} {key : κ}
    {e : ConfigError} {rest : Except ConfigError Unit} :
    (do if seen.contains key then throw e
        rest) = .ok () ↔ key ∉ seen ∧ rest = .ok () := by
  by_cases h : key ∈ seen
  · simp [h, throw, throwThe, MonadExceptOf.throw, bind, Except.bind]
  · simp [h]

theorem checkMappings_eq_ok_iff {claimed : List (String × String)} {ms : List Mapping} :
    checkMappings claimed ms = .ok () ↔
      (∀ m ∈ ms, m.check = .ok ()) ∧ (ms.map Mapping.claim).Nodup ∧
        ∀ m ∈ ms, m.claim ∉ claimed := by
  refine pass_eq_ok_iff (fun _ => rfl) ?_
  intro claimed m ms
  rw [checkMappings, andThen_eq_ok_iff, unlessSeen_eq_ok_iff]

theorem checkPlugins_eq_ok_iff {named : List String} {ps : List PluginBinding} :
    checkPlugins named ps = .ok () ↔
      (∀ p ∈ ps, p.check = .ok ()) ∧ (ps.map PluginBinding.name).Nodup ∧
        ∀ p ∈ ps, p.name ∉ named := by
  refine pass_eq_ok_iff (fun _ => rfl) ?_
  intro named p ps
  rw [checkPlugins, andThen_eq_ok_iff, unlessSeen_eq_ok_iff]

variable {c : Configuration}

/-- Every entry passes, no two mappings claim the same request, and no two plugins the same
name. -/
theorem validate_eq_ok_iff :
    c.validate = .ok () ↔
      ((∀ m ∈ c.mappings, m.check = .ok ()) ∧ (c.mappings.map Mapping.claim).Nodup) ∧
        (∀ p ∈ c.plugins, p.check = .ok ()) ∧ (c.plugins.map PluginBinding.name).Nodup := by
  rw [validate, andThen_eq_ok_iff, checkMappings_eq_ok_iff, checkPlugins_eq_ok_iff]
  simp

/-- The order of the mappings decides only which error is reported. -/
theorem validate_perm {ms : List Mapping} (h : ms.Perm c.mappings) :
    { c with mappings := ms }.validate = .ok () ↔ c.validate = .ok () := by
  simp only [validate_eq_ok_iff, h.mem_iff, (h.map Mapping.claim).nodup_iff]

end Configuration
end ApiMapping
