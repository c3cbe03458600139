import ApiMapping.Proofs.Success
import Mathlib.Data.List.Nodup

/-!
# Where a computation fails

A computation of several steps fails where its first failing step does. A pass over a list
that keeps the keys it has seen fails at the first element that is at fault or repeats a key,
so nothing behind that element has any part in the failure.
-/

namespace ApiMapping

variable {ε α β κ : Type}

theorem andThen_eq_error_iff {x : Except ε Unit} {y : Except ε β} {e : ε} :
    (x >>= fun _ => y) = .error e ↔ x = .error e ∨ x = .ok () ∧ y = .error e := by
  cases x <;> simp [bind, Except.bind]

theorem bind_eq_error_iff {x : Except ε α} {f : α → Except ε β} {e : ε} :
    x >>= f = .error e ↔ x = .error e ∨ ∃ a, x = .ok a ∧ f a = .error e := by
  cases x <;> simp [bind, Except.bind]

theorem exists_of_forM_eq_error {check : α → Except ε Unit} {xs : List α} {e : ε}
    (h : xs.forM check = .error e) : ∃ x ∈ xs, check x = .error e := by
  induction xs with
  | nil => cases h
  | cons x xs ih =>
    have hstep : (check x >>= fun _ => xs.forM check) = .error e := h
    rcases andThen_eq_error_iff.mp hstep with hx | ⟨-, hrest⟩
    · exact ⟨x, List.mem_cons_self, hx⟩
    · obtain ⟨y, hy, hfails⟩ := ih hrest
      exact ⟨y, List.mem_cons_of_mem x hy, hfails⟩

/-- A pass of conditions reports the first element that does not meet its own. -/
theorem forM_condition_eq_error_iff {holds : α → Bool} {report : α → ε} {xs : List α} {e : ε} :
    (xs.forM fun x => if holds x then Except.ok () else .error (report x)) = .error e ↔
      ∃ x, (xs.find? fun x => !holds x) = some x ∧ e = report x := by
  induction xs with
  | nil => simp [pure, Except.pure]
  | cons x xs ih =>
    rw [List.forM_eq_forM] at ih ⊢
    rw [List.forM_cons, List.find?_cons]
    cases hx : holds x with
    | true => exact ih
    | false => simp [bind, Except.bind, eq_comm]

theorem forM_flatMap (xs : List α) (parts : α → List β) (check : β → Except ε Unit) :
    (xs.flatMap parts).forM check = xs.forM fun x => (parts x).forM check := by
  induction xs with
  | nil => rfl
  | cons x xs ih =>
    simp only [List.forM_eq_forM] at ih ⊢
    rw [List.flatMap_cons, List.forM_append, List.forM_cons, ih]

/-! ## The first offending entry of a list -/

/-- What the entries of a list have to meet: each of them a condition of its own, and all of
them together that their keys differ. -/
structure Rules (α κ ε : Type) where
  key : α → κ
  Sound : α → Prop
  /-- What is reported of an entry that is not sound. -/
  Fault : α → ε → Prop
  /-- What is reported of an entry whose key an earlier one has. -/
  repeated : α → ε

namespace Rules

structure Met (r : Rules α κ ε) (xs : List α) : Prop where
  sound : ∀ x ∈ xs, r.Sound x
  distinct : (xs.map r.key).Nodup

/-- The entry at place `i` is the first to offend. Its own faults count before its repeating
a key, and of two entries with one key the later one offends. -/
inductive Offends (r : Rules α κ ε) (xs : List α) (i : Nat) : ε → Prop where
  | fault {x : α} {e : ε} : xs[i]? = some x → r.Met (xs.take i) → r.Fault x e → Offends r xs i e
  | repeats {x : α} : xs[i]? = some x → r.Met (xs.take i) → r.Sound x →
    r.key x ∈ (xs.take i).map r.key → Offends r xs i (r.repeated x)

variable {r : Rules α κ ε} {xs ys : List α} {i j : Nat} {e : ε}

theorem met_iff : r.Met xs ↔ (∀ x ∈ xs, r.Sound x) ∧ (xs.map r.key).Nodup :=
  ⟨fun h => ⟨h.sound, h.distinct⟩, fun h => ⟨h.1, h.2⟩⟩

theorem Met.nil : r.Met [] := ⟨by simp, by simp⟩

theorem Met.take (h : r.Met xs) (i : Nat) : r.Met (xs.take i) where
  sound x hx := h.sound x (List.mem_of_mem_take hx)
  distinct := by
    rw [List.map_take]
    exact h.distinct.sublist (List.take_sublist i _)

theorem met_concat_iff {x : α} :
    r.Met (xs ++ [x]) ↔ r.Met xs ∧ r.Sound x ∧ r.key x ∉ xs.map r.key := by
  constructor
  · rintro ⟨hsound, hkeys⟩
    rw [List.map_append, List.map_singleton, List.nodup_append_comm, List.singleton_append,
      List.nodup_cons] at hkeys
    exact ⟨⟨fun y hy => hsound y (List.mem_append_left _ hy), hkeys.2⟩,
      hsound x (List.mem_append_right _ List.mem_cons_self), hkeys.1⟩
  · rintro ⟨hmet, hsound, hkey⟩
    constructor
    · intro y hy
      rcases List.mem_append.mp hy with hy | hy
      · exact hmet.sound y hy
      · rwa [List.mem_singleton.mp hy]
    · rw [List.map_append, List.map_singleton, List.nodup_append_comm, List.singleton_append,
        List.nodup_cons]
      exact ⟨hkey, hmet.distinct⟩

/-- A sound entry has no fault. -/
def Consistent (r : Rules α κ ε) : Prop := ∀ x e, r.Sound x → ¬ r.Fault x e

theorem Offends.met_take (h : r.Offends xs i e) : r.Met (xs.take i) := by
  cases h with
  | fault _ hmet _ => exact hmet
  | repeats _ hmet _ _ => exact hmet

theorem Offends.lt_length (h : r.Offends xs i e) : i < xs.length := by
  cases h with
  | fault hx _ _ => exact (List.getElem?_eq_some_iff.mp hx).1
  | repeats hx _ _ _ => exact (List.getElem?_eq_some_iff.mp hx).1

theorem Offends.not_met_take_succ (hr : r.Consistent) (h : r.Offends xs i e) :
    ¬ r.Met (xs.take (i + 1)) := by
  intro hmet
  cases h with
  | @fault x e hx _ hfault =>
    rw [List.take_add_one, hx, Option.toList_some, met_concat_iff] at hmet
    exact hr x e hmet.2.1 hfault
  | @repeats x hx _ _ hkey =>
    rw [List.take_add_one, hx, Option.toList_some, met_concat_iff] at hmet
    exact hmet.2.2 hkey

theorem Offends.not_met (hr : r.Consistent) (h : r.Offends xs i e) : ¬ r.Met xs :=
  fun hmet => h.not_met_take_succ hr (hmet.take (i + 1))

/-- There is one first entry to offend. -/
theorem Offends.place_unique (hr : r.Consistent) {e' : ε} (h : r.Offends xs i e)
    (h' : r.Offends xs j e') : j = i := by
  have hle {i j : Nat} {e e' : ε} (h : r.Offends xs i e) (h' : r.Offends xs j e') : j ≤ i := by
    by_contra hlt
    have hmet := h'.met_take.take (i + 1)
    rw [List.take_take, Nat.min_eq_left (by omega)] at hmet
    exact h.not_met_take_succ hr hmet
  exact Nat.le_antisymm (hle h h') (hle h' h)

/-- What else can be reported at the place is another fault of the same entry. -/
theorem Offends.eq_or_fault (hr : r.Consistent) {e' : ε} (h : r.Offends xs i e)
    (h' : r.Offends xs i e') : e' = e ∨ ∃ x, xs[i]? = some x ∧ r.Fault x e ∧ r.Fault x e' := by
  cases h with
  | @fault x _ hx _ hfault =>
    cases h' with
    | fault hx' _ hfault' =>
      rw [hx, Option.some.injEq] at hx'
      exact .inr ⟨x, hx, hfault, hx' ▸ hfault'⟩
    | repeats hx' _ hsound _ =>
      rw [hx, Option.some.injEq] at hx'
      exact absurd hfault (hr x _ (hx' ▸ hsound))
  | repeats hx _ hsound _ =>
    cases h' with
    | fault hx' _ hfault' =>
      rw [hx, Option.some.injEq] at hx'
      exact absurd hfault' (hr _ _ (hx' ▸ hsound))
    | repeats hx' _ _ _ =>
      rw [hx, Option.some.injEq] at hx'
      exact .inl (hx' ▸ rfl)

/-- Only the list up to the place counts. -/
theorem Offends.of_take_eq (h : r.Offends xs i e) (heq : ys.take (i + 1) = xs.take (i + 1)) :
    r.Offends ys i e := by
  have hget : ys[i]? = xs[i]? := by
    rw [← List.getElem?_take_of_succ, heq, List.getElem?_take_of_succ]
  have htake : ys.take i = xs.take i := by
    have hshorter := congrArg (List.take i) heq
    rwa [List.take_take, List.take_take, Nat.min_eq_left (Nat.le_succ i)] at hshorter
  cases h with
  | fault hx hmet hfault => exact .fault (hget.trans hx) (htake ▸ hmet) hfault
  | repeats hx hmet hsound hkey =>
    exact .repeats (hget.trans hx) (htake ▸ hmet) hsound (htake ▸ hkey)

/-- Entries that are alike in all that the rules look at. -/
structure Alike (r : Rules α κ ε) (x y : α) : Prop where
  key : r.key y = r.key x
  sound : r.Sound y ↔ r.Sound x
  fault : ∀ e, r.Fault y e ↔ r.Fault x e
  repeated : r.repeated y = r.repeated x

theorem keys_of_alike (h : List.Forall₂ r.Alike xs ys) : ys.map r.key = xs.map r.key := by
  induction h with
  | nil => rfl
  | cons hxy _ ih => rw [List.map_cons, List.map_cons, hxy.key, ih]

theorem met_of_alike (h : List.Forall₂ r.Alike xs ys) (hmet : r.Met xs) : r.Met ys where
  sound y hy := by
    obtain ⟨x, hx, hxy⟩ := exists_of_forall₂_right h hy
    exact hxy.sound.mpr (hmet.sound x hx)
  distinct := keys_of_alike h ▸ hmet.distinct

theorem Offends.of_alike (h : List.Forall₂ r.Alike xs ys) (hxs : r.Offends xs i e) :
    r.Offends ys i e := by
  have htake : List.Forall₂ r.Alike (xs.take i) (ys.take i) := List.forall₂_take i h
  cases hxs with
  | fault hx hmet hfault =>
    obtain ⟨y, hy, hxy⟩ := getElem?_of_forall₂ h hx
    exact .fault hy (met_of_alike htake hmet) ((hxy.fault _).mpr hfault)
  | repeats hx hmet hsound hkey =>
    obtain ⟨y, hy, hxy⟩ := getElem?_of_forall₂ h hx
    rw [← hxy.repeated]
    refine .repeats hy (met_of_alike htake hmet) (hxy.sound.mpr hsound) ?_
    rw [keys_of_alike htake, hxy.key]
    exact hkey

/-- The pass checks each entry by itself, then whether its key is new, and then goes on. -/
structure PassedBy [BEq κ] (r : Rules α κ ε) (check : α → Except ε Unit)
    (pass : List κ → List α → Except ε Unit) : Prop where
  sound : ∀ x, check x = .ok () → r.Sound x
  fault : ∀ x e, check x = .error e → r.Fault x e
  nil : ∀ seen, pass seen [] = .ok ()
  cons : ∀ seen x rest, pass seen (x :: rest) = (check x >>= fun _ =>
    if seen.contains (r.key x) then .error (r.repeated x) else pass (r.key x :: seen) rest)

section Pass

variable [BEq κ] {check : α → Except ε Unit} {pass : List κ → List α → Except ε Unit}

/-- The pass fails at the first entry that offends. -/
theorem PassedBy.exists_offends [LawfulBEq κ] (hp : r.PassedBy check pass) {before : List α}
    (hbefore : r.Met before) (h : pass (before.map r.key).reverse xs = .error e) :
    ∃ i, r.Offends (before ++ xs) i e := by
  induction xs generalizing before with
  | nil =>
    rw [hp.nil] at h
    cases h
  | cons x xs ih =>
    have hplace : (before ++ x :: xs)[before.length]? = some x := by simp
    have htake : (before ++ x :: xs).take before.length = before := by simp
    rw [hp.cons] at h
    rcases andThen_eq_error_iff.mp h with hx | ⟨hx, hrest⟩
    · exact ⟨before.length, .fault hplace (by rwa [htake]) (hp.fault x e hx)⟩
    · by_cases hkey : r.key x ∈ before.map r.key
      · rw [if_pos (by simpa using hkey)] at hrest
        cases hrest
        exact ⟨before.length,
          .repeats hplace (by rwa [htake]) (hp.sound x hx) (by rwa [htake])⟩
      · rw [if_neg (by simpa using hkey)] at hrest
        have hmet : r.Met (before ++ [x]) := met_concat_iff.mpr ⟨hbefore, hp.sound x hx, hkey⟩
        have hnext : pass ((before ++ [x]).map r.key).reverse xs = .error e := by
          rwa [List.map_append, List.map_singleton, List.reverse_append, List.reverse_singleton,
            List.singleton_append]
        have hlater := ih hmet hnext
        rwa [List.append_assoc, List.singleton_append] at hlater

/-- Once the pass has failed, what follows is not looked at. -/
theorem PassedBy.append_eq_error (hp : r.PassedBy check pass) {seen : List κ}
    (h : pass seen xs = .error e) (ys : List α) : pass seen (xs ++ ys) = .error e := by
  induction xs generalizing seen with
  | nil =>
    rw [hp.nil] at h
    cases h
  | cons x xs ih =>
    rw [hp.cons] at h
    rw [List.cons_append, hp.cons]
    rcases andThen_eq_error_iff.mp h with hx | ⟨hx, hrest⟩
    · exact andThen_eq_error_iff.mpr (.inl hx)
    · refine andThen_eq_error_iff.mpr (.inr ⟨hx, ?_⟩)
      by_cases hkey : seen.contains (r.key x) = true
      · rwa [if_pos hkey] at hrest ⊢
      · rw [if_neg hkey] at hrest ⊢
        exact ih hrest

end Pass

end Rules
end ApiMapping
