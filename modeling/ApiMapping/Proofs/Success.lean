import Mathlib.Data.List.Forall2
import Mathlib.Data.List.Nodup

/-!
# When a computation succeeds

A computation of several steps succeeds if each step does on what the one before gave. A
pass over a list succeeds if every element does, whatever their order is.
-/

namespace ApiMapping

variable {ε α β : Type}

theorem bind_eq_ok_iff {x : Except ε α} {f : α → Except ε β} {b : β} :
    x >>= f = .ok b ↔ ∃ a, x = .ok a ∧ f a = .ok b := by
  cases x <;> simp [bind, Except.bind]

/-- A check that gives nothing but its verdict. -/
theorem andThen_eq_ok_iff {x : Except ε Unit} {y : Except ε β} {b : β} :
    (x >>= fun _ => y) = .ok b ↔ x = .ok () ∧ y = .ok b := by
  rw [bind_eq_ok_iff]
  constructor
  · rintro ⟨_, h⟩
    exact h
  · exact fun h => ⟨(), h⟩

theorem map_eq_ok_iff {x : Except ε α} {f : α → β} {b : β} :
    f <$> x = .ok b ↔ ∃ a, x = .ok a ∧ f a = b := by
  cases x <;> simp [Functor.map, Except.map]

theorem forM_eq_ok_iff {check : α → Except ε Unit} {xs : List α} :
    xs.forM check = .ok () ↔ ∀ x ∈ xs, check x = .ok () := by
  induction xs with
  | nil => simp [pure, Except.pure]
  | cons x xs ih =>
    change (check x >>= fun _ => xs.forM check) = .ok () ↔ _
    rw [andThen_eq_ok_iff, ih, List.forall_mem_cons]

/-- The results of a pass are those of the elements, one for one. -/
theorem mapM_eq_ok_iff {f : α → Except ε β} {xs : List α} {ys : List β} :
    xs.mapM f = .ok ys ↔ List.Forall₂ (fun x y => f x = .ok y) xs ys := by
  induction xs generalizing ys with
  | nil => simp [pure, Except.pure, eq_comm]
  | cons x xs ih =>
    simp only [List.mapM_cons, bind_eq_ok_iff, pure, Except.pure, Except.ok.injEq, ih,
      List.forall₂_cons_left_iff]
    constructor
    · rintro ⟨y, hy, rest, hrest, rfl⟩
      exact ⟨y, rest, hy, hrest, rfl⟩
    · rintro ⟨y, rest, hy, hrest, rfl⟩
      exact ⟨y, hy, rest, hrest, rfl⟩

/-- Lists that are related one for one have related elements in the same places. -/
theorem getElem?_of_forall₂ {R : α → β → Prop} {xs : List α} {ys : List β}
    (h : List.Forall₂ R xs ys) {i : Nat} {x : α} (hx : xs[i]? = some x) :
    ∃ y, ys[i]? = some y ∧ R x y := by
  obtain ⟨hi, rfl⟩ := List.getElem?_eq_some_iff.mp hx
  have hi' : i < ys.length := h.length_eq ▸ hi
  exact ⟨ys[i], List.getElem?_eq_getElem hi', h.get hi hi'⟩

/-- Every element on the right has a partner. -/
theorem exists_of_forall₂_right {R : α → β → Prop} {xs : List α} {ys : List β}
    (h : List.Forall₂ R xs ys) {y : β} (hy : y ∈ ys) : ∃ x ∈ xs, R x y := by
  obtain ⟨i, hi⟩ := List.mem_iff_getElem?.mp hy
  obtain ⟨x, hx, hxy⟩ := getElem?_of_forall₂ h.flip hi
  exact ⟨x, List.mem_of_getElem? hx, hxy⟩

theorem exists_forall₂ {R : α → β → Prop} {xs : List α} (h : ∀ x ∈ xs, ∃ y, R x y) :
    ∃ ys, List.Forall₂ R xs ys := by
  induction xs with
  | nil => exact ⟨[], .nil⟩
  | cons x xs ih =>
    obtain ⟨y, hy⟩ := h x List.mem_cons_self
    obtain ⟨ys, hys⟩ := ih fun z hz => h z (List.mem_cons_of_mem x hz)
    exact ⟨y :: ys, .cons hy hys⟩

theorem exists_mapM_eq_ok {f : α → Except ε β} {xs : List α} (h : ∀ x ∈ xs, ∃ y, f x = .ok y) :
    ∃ ys, xs.mapM f = .ok ys := by
  obtain ⟨ys, hys⟩ := exists_forall₂ h
  exact ⟨ys, mapM_eq_ok_iff.mpr hys⟩

/-- A pass that keeps the keys it has seen succeeds if the keys are new and differ. -/
theorem pass_eq_ok_iff {κ : Type} {key : α → κ} {check : α → Except ε Unit}
    {pass : List κ → List α → Except ε Unit} (hnil : ∀ seen, pass seen [] = .ok ())
    (hcons : ∀ seen x xs, pass seen (x :: xs) = .ok () ↔
      check x = .ok () ∧ key x ∉ seen ∧ pass (key x :: seen) xs = .ok ())
    {seen : List κ} {xs : List α} :
    pass seen xs = .ok () ↔
      (∀ x ∈ xs, check x = .ok ()) ∧ (xs.map key).Nodup ∧ ∀ x ∈ xs, key x ∉ seen := by
  induction xs generalizing seen with
  | nil => simp [hnil]
  | cons x xs ih =>
    have hkeys : (∀ y ∈ xs, key y ∉ key x :: seen) ↔
        key x ∉ xs.map key ∧ ∀ y ∈ xs, key y ∉ seen := by
      simp only [List.mem_map, List.mem_cons, not_exists, not_and, not_or, forall_and]
    rw [hcons, ih, hkeys, List.forall_mem_cons, List.forall_mem_cons, List.map_cons,
      List.nodup_cons]
    tauto

end ApiMapping
