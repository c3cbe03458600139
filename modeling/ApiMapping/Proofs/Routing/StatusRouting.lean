import ApiMapping.Proofs.Routing.Compilation
import ApiMapping.Proofs.Text.Numeral

/-!
# The reply that a status decides

A section lists its replies under texts and a router under numbers. Since every status has
one key only, the router's look-up of a number is the section's look-up of its key.
-/

namespace ApiMapping

theorem statusKey_injective {code code' : UInt16} (h : statusKey code = statusKey code') :
    code = code' := by
  have hdigits : Text.ofNat code.toNat = Text.ofNat code'.toNat := by
    simpa [statusKey] using congrArg String.toList h
  exact UInt16.toNat_inj.mp (Text.ofNat_injective hdigits)

theorem statusOfKey?_statusKey {code : UInt16} (h : isReplyStatus code = true) :
    statusOfKey? (statusKey code) = some code := by
  have hlt : code.toNat < UInt16.size := code.toNat_lt
  simp [statusOfKey?, statusKey, Text.unsigned?_ofNat hlt, h]

/-- The keys are the decimal texts of the statuses that can be sent. -/
theorem exists_statusOfKey?_iff {key : String} :
    (∃ code, statusOfKey? key = some code) ↔
      ∃ n : Nat, 100 ≤ n ∧ n ≤ 599 ∧ key = String.ofList (Text.ofNat n) := by
  constructor
  · rintro ⟨code, hcode⟩
    obtain ⟨hkey, hstatus⟩ := eq_statusKey_of_statusOfKey? hcode
    simp only [isReplyStatus, Bool.and_eq_true, decide_eq_true_eq, UInt16.le_iff_toNat_le] at hstatus
    exact ⟨code.toNat, hstatus.1, hstatus.2, hkey⟩
  · rintro ⟨n, hlow, hhigh, rfl⟩
    have hsize : n < UInt16.size := Nat.lt_of_le_of_lt hhigh (by decide)
    have hcode : (UInt16.ofNat n).toNat = n := UInt16.toNat_ofNat_of_lt' hsize
    have hstatus : isReplyStatus (UInt16.ofNat n) = true := by
      simp only [isReplyStatus, Bool.and_eq_true, decide_eq_true_eq, UInt16.le_iff_toNat_le, hcode]
      exact ⟨hlow, hhigh⟩
    have hread := statusOfKey?_statusKey hstatus
    rw [statusKey, hcode] at hread
    exact ⟨_, hread⟩

namespace Routing

/-- Once recoded, a table is looked up by the status instead of its key. -/
theorem lookup_of_recoded {entries : List (String × Reply)} {coded : List (UInt16 × Reply)}
    (h : List.Forall₂ Recodes entries coded) (status : UInt16) :
    coded.lookup status = entries.lookup (statusKey status) := by
  induction h with
  | nil => rfl
  | @cons entry code _ _ hentry _ ih =>
    obtain ⟨key, reply⟩ := entry
    obtain ⟨code, reply'⟩ := code
    obtain ⟨hcode, hreply⟩ := hentry
    dsimp only at hcode hreply
    obtain ⟨rfl, -⟩ := eq_statusKey_of_statusOfKey? hcode
    have hsame : (status == code) = (statusKey status == statusKey code) := by
      rw [Bool.eq_iff_iff, beq_iff_eq, beq_iff_eq]
      exact ⟨congrArg statusKey, statusKey_injective⟩
    rw [List.lookup_cons, List.lookup_cons, ih, hsame, hreply]

namespace StatusRouter

variable {m m' : Mapping} {s s' : StatusSection} {r r' : StatusRouter}

/-- The router's answer is what the section has under the key of the status. -/
theorem route_of_compile (h : compile m s = .ok r) (status : UInt16) :
    r.route status =
      match s.custom.lookup (statusKey status) with
      | some reply => ⟨reply.body, status, .status status⟩
      | none => ⟨s.fallback.body, s.fallback.status, .fallback⟩ := by
  obtain ⟨hfallback, hcoded⟩ := compile_eq_ok_iff.mp h
  cases hlookup : s.custom.lookup (statusKey status) <;>
    simp only [route, lookup_of_recoded hcoded, hfallback, hlookup]

theorem size_of_compile (h : compile m s = .ok r) : r.size = s.custom.length :=
  (compile_eq_ok_iff.mp h).2.length_eq.symm

/-- What is listed in another order compiles as well as before, and routes alike. -/
theorem exists_compile_relisted_iff (h : s.Relisted s') :
    (∃ r', compile m' s' = .ok r') ↔ ∃ r, compile m s = .ok r := by
  simp only [exists_compile_iff, h.custom.mem_iff]

theorem route_eq_of_relisted (h : s.Relisted s') (hr : compile m s = .ok r)
    (hr' : compile m' s' = .ok r') (status : UInt16) : r'.route status = r.route status := by
  rw [route_of_compile hr, route_of_compile hr', h.fallback, Keyed.lookup_perm h.custom h.keys]

/-- How a section of replies by status is followed. -/
structure Follows (m : Mapping) (s : StatusSection) : Prop where
  compiles_iff : (∃ r, compile m s = .ok r) ↔
    ∀ entry ∈ s.custom, ∃ n : Nat, 100 ≤ n ∧ n ≤ 599 ∧ entry.1 = String.ofList (Text.ofNat n)
  /-- A reply under the text of the target's status keeps that status. -/
  declared : ∀ r status reply, compile m s = .ok r →
    s.custom.lookup (statusKey status) = some reply →
    r.route status = ⟨reply.body, status, .status status⟩
  fallback : ∀ r status, compile m s = .ok r → statusKey status ∉ s.custom.map Prod.fst →
    r.route status = ⟨s.fallback.body, s.fallback.status, .fallback⟩
  /-- A router has as many replies as its section has keys, and no status twice. -/
  size : ∀ r, compile m s = .ok r → (s.custom.map Prod.fst).Nodup →
    r.size = s.custom.length ∧ (r.custom.map Prod.fst).Nodup
  /-- Replies may be listed in any order. -/
  relisted : ∀ s', s.Relisted s' →
    ((∃ r', compile m s' = .ok r') ↔ ∃ r, compile m s = .ok r) ∧
      ∀ r r', compile m s = .ok r → compile m s' = .ok r' →
        r'.size = r.size ∧ ∀ status, r'.route status = r.route status

/-- Routing by status is the look-up of a decimal text in the section. -/
theorem follows_compile (m : Mapping) (s : StatusSection) : Follows m s where
  compiles_iff := by simp only [exists_compile_iff, exists_statusOfKey?_iff]
  declared r status reply hr hreply := by rw [route_of_compile hr, hreply]
  fallback r status hr hkey := by
    have hnone : s.custom.lookup (statusKey status) = none := by
      rw [List.lookup_eq_none_iff]
      intro entry hentry
      have hne : statusKey status ≠ entry.1 := by
        intro heq
        exact hkey (heq ▸ List.mem_map_of_mem hentry)
      simpa using hne
    rw [route_of_compile hr, hnone]
  size r hr hkeys :=
    ⟨size_of_compile hr, nodup_of_recoded (compile_eq_ok_iff.mp hr).2 hkeys⟩
  relisted s' hrelisted := by
    refine ⟨exists_compile_relisted_iff hrelisted, ?_⟩
    intro r r' hr hr'
    refine ⟨?_, route_eq_of_relisted hrelisted hr hr'⟩
    rw [size_of_compile hr', size_of_compile hr, hrelisted.custom.length_eq]

end StatusRouter
end Routing
end ApiMapping
