import ApiMapping.Proofs.Template.Joining

/-!
# Locators that name keys

What a list of keys leads to can be said without locators. The steps of a locator lead to the
same in all documents only if they are those keys, one step for each: a document of nothing but
the keys, each in the one before, tells all other steps apart.
-/

namespace ApiMapping
namespace Template

/-! ## Looking up keys -/

/-- The member with that key, or the item at the place that the key is a number for. -/
def child? (k : String) : Json → Option Json
  | .object members => members.lookup k
  | .array items => Locator.index? k.toList >>= fun i => items[i]?
  | _ => none

/-- The value that keys lead down to. -/
def descend? : List String → Json → Option Json
  | [], v => some v
  | k :: rest, v => child? k v >>= descend? rest

variable {keys : List String} {steps : List Segment} {v w : Json}

theorem step?_key (k : String) (v : Json) : (Segment.key k).step? v = child? k v := by
  cases v <;> rfl

theorem follow_map_key (keys : List String) (v : Json) :
    follow (keys.map .key) v = descend? keys v := by
  induction keys generalizing v with
  | nil => rfl
  | cons k keys ih =>
    rw [List.map_cons, follow_cons_of_ne_count Segment.noConfusion, step?_key]
    exact congrArg (child? k v >>= ·) (funext ih)

/-- Where keys name members of objects, they lead to the value of the innermost one. -/
theorem descend?_of_along? (h : v.along? (keys.map .name) = some w) : descend? keys v = some w := by
  induction keys generalizing v with
  | nil => exact h
  | cons k keys ih =>
    obtain ⟨u, hu, hrest⟩ := Json.along?_cons_eq_some_iff.mp h
    obtain ⟨members, rfl, hmember⟩ := Json.into?_name_eq_some_iff.mp hu
    rw [descend?, child?, hmember]
    exact ih hrest

/-! ## The document of the keys -/

/-- Objects of one member, each the value of the one around it. -/
def nested : List String → Json
  | [] => .null
  | k :: rest => .object [(k, nested rest)]

theorem along?_nested (keys : List String) :
    (nested keys).along? (keys.map .name) = some .null := by
  induction keys with
  | nil => rfl
  | cons k keys ih =>
    exact Json.along?_cons_eq_some_iff.mpr ⟨nested keys, List.lookup_cons_self, ih⟩

/-- Only the keys themselves lead through the document of the keys. -/
theorem eq_map_key_of_follow_nested (h : follow steps (nested keys) = some .null) :
    steps = keys.map .key := by
  induction steps generalizing keys with
  | nil =>
    -- An object is not null, so the steps cannot end before the keys.
    cases keys with
    | nil => rfl
    | cons k keys => cases Option.some.inj h
  | cons s steps ih =>
    cases s with
    | count => cases keys <;> cases steps <;> cases h
    | index i => cases keys <;> cases h
    | key k =>
      cases keys with
      | nil => cases h
      | cons first keys =>
        obtain ⟨u, hu, hrest⟩ := Option.bind_eq_some_iff.mp h
        change List.lookup k [(first, nested keys)] = some u at hu
        by_cases hk : k = first
        · subst hk
          rw [List.lookup_cons_self, Option.some.injEq] at hu
          subst hu
          rw [ih hrest]
          rfl
        · simp [List.lookup_cons, beq_eq_false_iff_ne.mpr hk] at hu

theorem follow_eq_descend?_iff :
    (∀ v, follow steps v = descend? keys v) ↔ steps = keys.map .key := by
  constructor
  · intro h
    exact eq_map_key_of_follow_nested ((h _).trans (descend?_of_along? (along?_nested keys)))
  · rintro rfl v
    exact follow_map_key keys v

theorem follow_leads_iff :
    (∀ v w, v.along? (keys.map .name) = some w → follow steps v = some w) ↔
      steps = keys.map .key := by
  constructor
  · intro h
    exact eq_map_key_of_follow_nested (h _ _ (along?_nested keys))
  · rintro rfl v w hw
    rw [follow_map_key]
    exact descend?_of_along? hw

namespace Locator

/-! ## The parts of a locator -/

variable {parts : List (List Char)}

/-- If all parts but the last are complete, each dot between them ends a step. -/
theorem scan_intercalate (hne : parts ≠ []) (h : ∀ part ∈ parts.dropLast, Complete part) :
    scan [] (['.'].intercalate parts) = parts.flatMap (scan []) := by
  induction parts with
  | nil => exact absurd rfl hne
  | cons part parts ih =>
    cases parts with
    | nil => rw [List.intercalate_singleton, List.flatMap_singleton]
    | cons next parts =>
      rw [List.dropLast_cons_cons, List.forall_mem_cons] at h
      rw [List.flatMap_cons, List.intercalate_cons_cons, List.append_assoc, List.singleton_append,
        h.1.scan_append, ih (List.cons_ne_nil _ _) h.2]

/-- The step that a key becomes once its characters are read. -/
def stepOf (k : String) : Segment := if k = "#" then .count else .key k

theorem stepOf_of_ne {k : String} (h : k ≠ "#") : stepOf k = .key k := if_neg h

theorem flush_key {k : String} (h : k ≠ "") : flush k.toList.reverse = [stepOf k] := by
  have hne : k.toList ≠ [] := fun he => h (String.toList_eq_nil_iff.mp he)
  by_cases hcount : k = "#"
  · rw [hcount]
    rfl
  · rw [stepOf_of_ne hcount, flush_reverse hne fun he => hcount (String.toList_injective he),
      String.ofList_toList]

theorem eq_toList_of_flush {cs : List Char} {k : String} (h : flush cs.reverse = [.key k]) :
    cs = k.toList := by
  unfold flush at h
  split at h
  · cases h
  · cases h
  · rw [List.reverse_reverse] at h
    rw [← Segment.key.inj (List.cons.inj h).1, String.toList_ofList]

theorem map_stepOf_eq_iff : keys.map stepOf = keys.map .key ↔ "#" ∉ keys := by
  rw [List.map_inj_left]
  constructor
  · intro h hmem
    cases h _ hmem
  · intro h k hk
    exact stepOf_of_ne fun he => h (he ▸ hk)

end Locator

end Template
end ApiMapping
