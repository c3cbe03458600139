import ApiMapping.Keyed
import Mathlib.Algebra.GroupWithZero.Nat
import Mathlib.Data.List.Nodup

/-!
# Values by name

A name of a grouped list has exactly the values that it has in the list, in their order. A
look-up that at most one entry can answer does not depend on the order of the entries.
-/

namespace ApiMapping
namespace Keyed

/-- The values of a name, in their order. -/
def values (name : String) (pairs : List (String × α)) : List α :=
  (pairs.filter fun p => p.1 = name).map Prod.snd

/-- Changing a value is putting the changed one in its place. -/
theorem update_eq_put (name : String) (blank : α) (f : α → α) (table : List (String × α)) :
    update name blank f table = put name (f ((table.lookup name).getD blank)) table := by
  induction table with
  | nil => rfl
  | cons entry rest ih =>
    obtain ⟨other, old⟩ := entry
    by_cases h : other = name
    · simp [update, put, h]
    · simp [update, put, h, lookup_entry, Ne.symm h, ih]

theorem lookup_update_self (name : String) (blank : α) (f : α → α) (table : List (String × α)) :
    (update name blank f table).lookup name = some (f ((table.lookup name).getD blank)) := by
  rw [update_eq_put, lookup_put_self]

theorem lookup_update_of_ne {name other : String} (h : other ≠ name) (blank : α) (f : α → α)
    (table : List (String × α)) :
    (update name blank f table).lookup other = table.lookup other := by
  rw [update_eq_put, lookup_put_of_ne h]

/-- Grouping more pairs into a table adds their values behind those that are there. -/
theorem lookup_foldl_update (name : String) (pairs : List (String × α))
    (table : List (String × List α)) :
    (pairs.foldl (fun table (key, value) => update key [] (· ++ [value]) table) table).lookup name =
      if values name pairs = [] then table.lookup name
      else some ((table.lookup name).getD [] ++ values name pairs) := by
  induction pairs generalizing table with
  | nil => simp [values]
  | cons pair rest ih =>
    obtain ⟨key, value⟩ := pair
    rw [List.foldl_cons, ih]
    by_cases h : key = name
    · subst h
      have hv : values key ((key, value) :: rest) = value :: values key rest := by simp [values]
      rw [hv, lookup_update_self]
      by_cases hr : values key rest = []
      · simp [hr]
      · simp [hr]
    · have hv : values name ((key, value) :: rest) = values name rest := by simp [values, h]
      rw [hv, lookup_update_of_ne (Ne.symm h)]

/-- Grouping loses and invents nothing. -/
theorem lookup_group (name : String) (pairs : List (String × α)) :
    (group pairs).lookup name =
      if values name pairs = [] then none else some (values name pairs) := by
  simpa [group] using lookup_foldl_update name pairs []

/-- A name for which nothing is put keeps its value. -/
theorem lookup_foldl_put_of_not_mem {name : String} {entries : List (String × α)}
    (h : name ∉ entries.map Prod.fst) (table : List (String × α)) :
    (entries.foldl (fun table entry => put entry.1 entry.2 table) table).lookup name =
      table.lookup name := by
  induction entries generalizing table with
  | nil => rfl
  | cons entry rest ih =>
    rw [List.map_cons, List.mem_cons, not_or] at h
    rw [List.foldl_cons, ih h.2, lookup_put_of_ne h.1]

/-- A value that is put once for its name is the name's value in the end. -/
theorem lookup_foldl_put_of_mem {name : String} {value : α} {entries : List (String × α)}
    (hnames : (entries.map Prod.fst).Nodup) (h : (name, value) ∈ entries)
    (table : List (String × α)) :
    (entries.foldl (fun table entry => put entry.1 entry.2 table) table).lookup name =
      some value := by
  induction entries generalizing table with
  | nil => cases h
  | cons entry rest ih =>
    rw [List.map_cons, List.nodup_cons] at hnames
    rw [List.foldl_cons]
    rcases List.mem_cons.mp h with rfl | h
    · rw [lookup_foldl_put_of_not_mem hnames.1, lookup_put_self]
    · exact ih hnames.2 h _

/-! ## Names and their order -/

theorem isSome_lookup_iff {name : String} {entries : List (String × α)} :
    (entries.lookup name).isSome = true ↔ name ∈ entries.map Prod.fst := by
  simp only [List.lookup_isSome_iff, List.mem_map, beq_iff_eq]
  exact exists_congr fun entry => and_congr_right fun _ => eq_comm

/-- A new name comes last, and a name that is there stays in its place. -/
theorem map_fst_put (name : String) (value : α) (entries : List (String × α)) :
    (put name value entries).map Prod.fst =
      if name ∈ entries.map Prod.fst then entries.map Prod.fst
      else entries.map Prod.fst ++ [name] := by
  induction entries with
  | nil => simp [put]
  | cons entry rest ih =>
    by_cases h : entry.1 = name
    · simp [put, h]
    · have hne : ¬ name = entry.1 := fun heq => h heq.symm
      rw [put, if_neg h, List.map_cons, List.map_cons, ih]
      by_cases hrest : name ∈ rest.map Prod.fst <;> simp [hrest, hne]

theorem put_of_not_mem {name : String} {entries : List (String × α)}
    (h : name ∉ entries.map Prod.fst) (value : α) :
    put name value entries = entries ++ [(name, value)] := by
  induction entries with
  | nil => rfl
  | cons entry rest ih =>
    rw [List.map_cons, List.mem_cons, not_or] at h
    rw [put, if_neg (Ne.symm h.1), ih h.2, List.cons_append]

theorem nodup_put {entries : List (String × α)} (h : (entries.map Prod.fst).Nodup) (name : String)
    (value : α) : ((put name value entries).map Prod.fst).Nodup := by
  rw [map_fst_put]
  split
  · exact h
  · rename_i hnew
    rw [← List.concat_eq_append]
    exact h.concat hnew

/-- In a table without repeated names, a name has the value of its entry. -/
theorem lookup_eq_some_iff_mem {entries : List (String × α)} (h : (entries.map Prod.fst).Nodup)
    {name : String} {value : α} :
    entries.lookup name = some value ↔ (name, value) ∈ entries := by
  induction entries with
  | nil => simp
  | cons entry rest ih =>
    obtain ⟨other, old⟩ := entry
    rw [List.map_cons, List.nodup_cons] at h
    rw [lookup_entry, List.mem_cons, Prod.mk.injEq, ← ih h.2]
    by_cases he : name = other
    · subst he
      have hnone : rest.lookup name = none := by
        rw [← Option.not_isSome_iff_eq_none, isSome_lookup_iff]
        exact h.1
      simp [hnone, eq_comm]
    · simp [he]

theorem mem_of_mem_put {name : String} {value : α} {entries : List (String × α)}
    {entry : String × α} (h : entry ∈ put name value entries) :
    entry = (name, value) ∨ entry ∈ entries := by
  induction entries with
  | nil => exact .inl (List.mem_singleton.mp h)
  | cons first rest ih =>
    rw [put] at h
    split at h
    · exact (List.mem_cons.mp h).imp_right (List.mem_cons_of_mem _)
    · rcases List.mem_cons.mp h with rfl | h
      · exact .inr List.mem_cons_self
      · exact (ih h).imp_right (List.mem_cons_of_mem _)

theorem mem_names_sorted {name : String} {entries : List (String × α)} :
    name ∈ (sorted entries).map Prod.fst ↔ name ∈ entries.map Prod.fst :=
  ((List.mergeSort_perm _ _).map Prod.fst).mem_iff

/-- Where no name is repeated, sorting puts the names in strict order. -/
theorem sorted_names_increasing {entries : List (String × α)} (h : (entries.map Prod.fst).Nodup) :
    ((sorted entries).map Prod.fst).Pairwise (· < ·) := by
  have hle : (sorted entries).Pairwise fun a b => decide (a.1 ≤ b.1) = true := by
    refine List.pairwise_mergeSort ?_ ?_ entries
    · intro a b c hab hbc
      exact decide_eq_true (String.le_trans (of_decide_eq_true hab) (of_decide_eq_true hbc))
    · intro a b
      rw [Bool.or_eq_true, decide_eq_true_eq, decide_eq_true_eq]
      exact String.le_total a.1 b.1
  have hnames : ((sorted entries).map Prod.fst).Pairwise (· ≤ ·) :=
    hle.map Prod.fst fun _ _ hab => of_decide_eq_true hab
  have hnodup : ((sorted entries).map Prod.fst).Nodup :=
    ((List.mergeSort_perm _ _).map Prod.fst).nodup_iff.mpr h
  exact (hnames.and hnodup).imp fun hab => Std.lt_of_le_of_ne hab.1 hab.2

/-! ## Groups -/

theorem nodup_group (pairs : List (String × α)) : ((group pairs).map Prod.fst).Nodup := by
  refine List.foldlRecOn pairs _ (motive := fun table : List (String × List α) =>
    (table.map Prod.fst).Nodup) List.nodup_nil ?_
  rintro table htable ⟨name, value⟩ _
  dsimp only
  rw [update_eq_put]
  exact nodup_put htable name _

theorem mem_group_iff {name : String} {vs : List α} {pairs : List (String × α)} :
    (name, vs) ∈ group pairs ↔ vs ≠ [] ∧ vs = values name pairs := by
  rw [← lookup_eq_some_iff_mem (nodup_group pairs), lookup_group]
  by_cases h : values name pairs = []
  · simp [h]
  · rw [if_neg h, Option.some.injEq]
    constructor
    · rintro rfl
      exact ⟨h, rfl⟩
    · rintro ⟨-, rfl⟩
      rfl

theorem sum_length_update (name : String) (value : α) (table : List (String × List α)) :
    ((update name [] (· ++ [value]) table).map fun entry => entry.2.length).sum =
      (table.map fun entry => entry.2.length).sum + 1 := by
  induction table with
  | nil => rfl
  | cons entry rest ih =>
    by_cases h : entry.1 = name
    · simp only [update, h, if_true, List.map_cons, List.sum_cons, List.length_append,
        List.length_singleton]
      omega
    · simp only [update, h, if_false, List.map_cons, List.sum_cons, ih]
      omega

/-- Every pair is in one group. -/
theorem sum_length_group (pairs : List (String × α)) :
    ((group pairs).map fun entry => entry.2.length).sum = pairs.length := by
  have hfold (pairs : List (String × α)) (table : List (String × List α)) :
      ((pairs.foldl (fun table (name, value) => update name [] (· ++ [value]) table) table).map
        fun entry => entry.2.length).sum =
          (table.map fun entry => entry.2.length).sum + pairs.length := by
    induction pairs generalizing table with
    | nil => rfl
    | cons pair rest ih =>
      rw [List.foldl_cons, ih, sum_length_update, List.length_cons]
      omega
  simpa [group] using hfold pairs []

/-! ## Entries in another order -/

theorem find?_perm {p : α → Bool} {xs ys : List α} (h : xs.Perm ys)
    (hunique : ∀ x ∈ xs, ∀ y ∈ xs, p x = true → p y = true → x = y) :
    xs.find? p = ys.find? p := by
  induction h with
  | nil => rfl
  | cons x _ ih =>
    rw [List.find?_cons, List.find?_cons, ih]
    intro a ha b hb
    exact hunique a (List.mem_cons_of_mem x ha) b (List.mem_cons_of_mem x hb)
  | swap x y xs =>
    cases hy : p y with
    | false => cases hx : p x <;> simp [hx, hy]
    | true =>
      cases hx : p x with
      | false => simp [hx, hy]
      | true => rw [hunique y (by simp) x (by simp) hy hx]
  | trans hxy _ ihxy ihyz =>
    rw [ihxy hunique, ihyz]
    intro a ha b hb
    exact hunique a (hxy.mem_iff.mpr ha) b (hxy.mem_iff.mpr hb)

theorem lookup_eq_find? {κ : Type} [BEq κ] (key : κ) (entries : List (κ × α)) :
    entries.lookup key = (entries.find? fun entry => key == entry.1).map Prod.snd := by
  induction entries with
  | nil => rfl
  | cons entry entries ih =>
    rw [List.find?_cons, List.lookup_cons, ih]
    cases key == entry.1 <;> rfl

/-- A table in which no key is repeated can be listed in any order. -/
theorem lookup_perm {κ : Type} [BEq κ] [LawfulBEq κ] {entries entries' : List (κ × α)}
    (h : entries.Perm entries') (hkeys : (entries.map Prod.fst).Nodup) (key : κ) :
    entries.lookup key = entries'.lookup key := by
  rw [lookup_eq_find?, lookup_eq_find?, find?_perm h]
  intro x hx y hy hkeyx hkeyy
  have hsame : x.1 = y.1 := by rw [← eq_of_beq hkeyx, ← eq_of_beq hkeyy]
  exact List.inj_on_of_nodup_map hkeys hx hy hsame

end Keyed
end ApiMapping
