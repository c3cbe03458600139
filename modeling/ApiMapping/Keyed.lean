/-!
# Named values in order

A list of names with their values, in the order in which the names first came up.
Giving a name a new value does not move it.
-/

namespace ApiMapping
namespace Keyed

/-- Give a name a value, in its place if it has one already and else at the end. -/
def put (name : String) (value : α) : List (String × α) → List (String × α)
  | [] => [(name, value)]
  | entry :: rest =>
    if entry.1 = name then (name, value) :: rest else entry :: put name value rest

/-- Change the value of a name, which starts as `blank` if it is new. -/
def update (name : String) (blank : α) (f : α → α) : List (String × α) → List (String × α)
  | [] => [(name, f blank)]
  | entry :: rest =>
    if entry.1 = name then (name, f entry.2) :: rest else entry :: update name blank f rest

/-- All values of each name, in their order. -/
def group (pairs : List (String × α)) : List (String × List α) :=
  pairs.foldl (fun table (name, value) => update name [] (· ++ [value]) table) []

/-- The entries in the order of their names. -/
def sorted (entries : List (String × α)) : List (String × α) :=
  entries.mergeSort fun a b => decide (a.1 ≤ b.1)

theorem lookup_entry (name other : String) (value : α) (rest : List (String × α)) :
    ((other, value) :: rest).lookup name = if name = other then some value else rest.lookup name := by
  by_cases h : name = other
  · simp [h]
  · have e : (name == other) = false := by simpa using h
    simp [List.lookup_cons, e, h]

@[simp] theorem lookup_put_self (name : String) (value : α) (entries : List (String × α)) :
    (put name value entries).lookup name = some value := by
  induction entries with
  | nil => simp [put]
  | cons entry rest ih =>
    obtain ⟨other, old⟩ := entry
    by_cases h : other = name
    · simp [put, h]
    · simp [put, h, lookup_entry, ih, Ne.symm h]

theorem lookup_put_of_ne {name other : String} (h : other ≠ name) (value : α)
    (entries : List (String × α)) :
    (put name value entries).lookup other = entries.lookup other := by
  induction entries with
  | nil => simp [put, lookup_entry, h]
  | cons entry rest ih =>
    obtain ⟨key, old⟩ := entry
    by_cases e : key = name
    · subst e
      simp [put, lookup_entry, h]
    · simp [put, e, lookup_entry, ih]

end Keyed
end ApiMapping
