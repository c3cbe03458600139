import ApiMapping.Proofs.Json.Positions
import ApiMapping.Proofs.Number.Rounding
import Mathlib.Data.List.Nodup

/-!
# Values that a document can hold

A value is kept by a document if no object has two members of one name. A text can spell it
if its numbers are integers of the range that is kept exactly or finite binary numbers in
their one form, and if it is not nested too deeply.
-/

namespace ApiMapping

def JsonNumber.Proper : JsonNumber → Prop
  | .integer i => Json.inIntegerRange i = true
  | .real x => x.Canonical

namespace Json

/-- The property holds of the value and of every value in it. -/
def Everywhere (p : Json → Prop) (v : Json) : Prop := ∀ path u, v.at? path = some u → p u

section Everywhere

variable {p q : Json → Prop} {v : Json} {items : List Json} {members : List (String × Json)}

theorem everywhere_iff :
    Everywhere p v ↔ p v ∧ ∀ (b : Branch) (u : Json), b.into? v = some u → Everywhere p u := by
  constructor
  · intro h
    refine ⟨h [] v rfl, fun b u hu path w hw => h (b :: path) w ?_⟩
    exact at?_cons_eq_some_iff.mpr ⟨u, hu, hw⟩
  · rintro ⟨hroot, hbelow⟩ path w hw
    cases path with
    | nil => exact Option.some.inj hw ▸ hroot
    | cons b path =>
      obtain ⟨u, hu, hw⟩ := at?_cons_eq_some_iff.mp hw
      exact hbelow b u hu path w hw

theorem everywhere_of_isLeaf (h : v.isLeaf = true) : Everywhere p v ↔ p v := by
  rw [everywhere_iff, and_iff_left_iff_imp]
  intro _ b u hu
  rw [isLeaf_of_into? hu] at h
  cases h

theorem everywhere_array :
    Everywhere p (.array items) ↔ p (.array items) ∧ ∀ v ∈ items, Everywhere p v := by
  rw [everywhere_iff]
  refine and_congr_right fun _ => ⟨fun h v hv => ?_, fun h b u hu => ?_⟩
  · obtain ⟨i, hi⟩ := List.mem_iff_getElem?.mp hv
    exact h (.item i) v hi
  · cases b with
    | member i => cases hu
    | item i => exact h u (List.mem_of_getElem? hu)

theorem everywhere_object :
    Everywhere p (.object members) ↔ p (.object members) ∧ ∀ m ∈ members, Everywhere p m.2 := by
  rw [everywhere_iff]
  refine and_congr_right fun _ => ⟨fun h m hm => ?_, fun h b u hu => ?_⟩
  · obtain ⟨i, hi⟩ := List.mem_iff_getElem?.mp hm
    exact h (.member i) m.2 (by simp [Branch.into?, hi])
  · cases b with
    | item i => cases hu
    | member i =>
      obtain ⟨m, hm, rfl⟩ := Option.map_eq_some_iff.mp hu
      exact h m (List.mem_of_getElem? hm)

end Everywhere

def NamesDiffer : Json → Prop
  | .object members => (members.map Prod.fst).Nodup
  | _ => True

def NumberProper : Json → Prop
  | .number n => n.Proper
  | _ => True

/-- No object has two members of one name. -/
def Distinct : Json → Prop := Everywhere NamesDiffer

theorem distinct_of_isLeaf {v : Json} (h : v.isLeaf = true) : v.Distinct := by
  refine (everywhere_of_isLeaf h).mpr ?_
  cases v with
  | object members => cases h
  | _ => trivial

theorem distinct_array {items : List Json} : (Json.array items).Distinct ↔ ∀ v ∈ items, v.Distinct :=
  everywhere_array.trans (and_iff_right trivial)

theorem distinct_object {members : List (String × Json)} :
    (Json.object members).Distinct ↔
      (members.map Prod.fst).Nodup ∧ ∀ m ∈ members, m.2.Distinct :=
  everywhere_object

mutual

/-- The arrays and objects that stand in each other, at the most. -/
def depth : Json → Nat
  | .array items => depthItems items + 1
  | .object members => depthMembers members + 1
  | _ => 0

def depthItems : List Json → Nat
  | [] => 0
  | item :: rest => max item.depth (depthItems rest)

def depthMembers : List (String × Json) → Nat
  | [] => 0
  | (_, value) :: rest => max value.depth (depthMembers rest)

end

theorem depthItems_le_iff {n : Nat} {items : List Json} :
    depthItems items ≤ n ↔ ∀ v ∈ items, v.depth ≤ n := by
  induction items with
  | nil => simp [depthItems]
  | cons v items ih => rw [depthItems, Nat.max_le, ih, List.forall_mem_cons]

theorem depthMembers_le_iff {n : Nat} {members : List (String × Json)} :
    depthMembers members ≤ n ↔ ∀ m ∈ members, m.2.depth ≤ n := by
  induction members with
  | nil => simp [depthMembers]
  | cons m members ih => rw [depthMembers, Nat.max_le, ih, List.forall_mem_cons]

/-- A text that may be so deep can spell the value. -/
structure Spellable (room : Nat) (v : Json) : Prop where
  numbers : Everywhere NumberProper v
  shallow : v.depth ≤ room

section Spellable

variable {room : Nat}

@[simp] theorem spellable_null : Json.null.Spellable room :=
  ⟨(everywhere_of_isLeaf rfl).mpr trivial, Nat.zero_le room⟩

@[simp] theorem spellable_bool (b : Bool) : (Json.bool b).Spellable room :=
  ⟨(everywhere_of_isLeaf rfl).mpr trivial, Nat.zero_le room⟩

@[simp] theorem spellable_string (s : String) : (Json.string s).Spellable room :=
  ⟨(everywhere_of_isLeaf rfl).mpr trivial, Nat.zero_le room⟩

theorem spellable_number {n : JsonNumber} : (Json.number n).Spellable room ↔ n.Proper :=
  ⟨fun h => (everywhere_of_isLeaf rfl).mp h.numbers,
    fun h => ⟨(everywhere_of_isLeaf rfl).mpr h, Nat.zero_le room⟩⟩

theorem spellable_ofNat {n : Nat} (h : n < UInt64.size) : (Json.ofNat n).Spellable room := by
  refine spellable_number.mpr ?_
  simp only [JsonNumber.Proper, inIntegerRange, Bool.and_eq_true, decide_eq_true_eq]
  have hlow : -Int.ofNat (Nat.pow 2 63) ≤ 0 := Int.neg_nonpos_of_nonneg (Int.natCast_nonneg _)
  exact ⟨Int.le_trans hlow (Int.natCast_nonneg n), Int.ofNat_lt.mpr h⟩

@[simp] theorem spellable_array {items : List Json} :
    (Json.array items).Spellable (room + 1) ↔ ∀ v ∈ items, v.Spellable room := by
  refine ⟨fun h v hv => ?_, fun h => ⟨?_, ?_⟩⟩
  · have hdepth := Nat.le_of_succ_le_succ h.shallow
    exact ⟨(everywhere_array.mp h.numbers).2 v hv, depthItems_le_iff.mp hdepth v hv⟩
  · exact everywhere_array.mpr ⟨trivial, fun v hv => (h v hv).numbers⟩
  · exact Nat.succ_le_succ (depthItems_le_iff.mpr fun v hv => (h v hv).shallow)

@[simp] theorem spellable_object {members : List (String × Json)} :
    (Json.object members).Spellable (room + 1) ↔ ∀ m ∈ members, m.2.Spellable room := by
  refine ⟨fun h m hm => ?_, fun h => ⟨?_, ?_⟩⟩
  · have hdepth := Nat.le_of_succ_le_succ h.shallow
    exact ⟨(everywhere_object.mp h.numbers).2 m hm, depthMembers_le_iff.mp hdepth m hm⟩
  · exact everywhere_object.mpr ⟨trivial, fun m hm => (h m hm).numbers⟩
  · exact Nat.succ_le_succ (depthMembers_le_iff.mpr fun m hm => (h m hm).shallow)

end Spellable

/-! ## Exchanging numbers -/

section MapReals

variable (f : Number.Binary64 → Number.Binary64)

mutual

/-- The value with every binary number exchanged for another one. -/
def mapReals : Json → Json
  | .number (.real x) => .number (.real (f x))
  | .array items => .array (mapItems items)
  | .object members => .object (mapMembers members)
  | v => v

def mapItems : List Json → List Json
  | [] => []
  | item :: rest => mapReals item :: mapItems rest

def mapMembers : List (String × Json) → List (String × Json)
  | [] => []
  | (name, value) :: rest => (name, mapReals value) :: mapMembers rest

end

@[simp] theorem mapReals_string (s : String) : (Json.string s).mapReals f = .string s := rfl

@[simp] theorem mapReals_bool (b : Bool) : (Json.bool b).mapReals f = .bool b := rfl

@[simp] theorem mapReals_ofNat (n : Nat) : (Json.ofNat n).mapReals f = Json.ofNat n := rfl

@[simp] theorem mapReals_null : Json.null.mapReals f = .null := rfl

@[simp] theorem mapReals_array (items : List Json) :
    (Json.array items).mapReals f = .array (items.map (mapReals f)) := by
  have hitems : mapItems f items = items.map (mapReals f) := by
    induction items with
    | nil => rfl
    | cons item rest ih => rw [mapItems, ih, List.map_cons]
  rw [mapReals, hitems]

@[simp] theorem mapReals_object (members : List (String × Json)) :
    (Json.object members).mapReals f =
      .object (members.map fun m => (m.1, m.2.mapReals f)) := by
  have hmembers : mapMembers f members = members.map fun m => (m.1, m.2.mapReals f) := by
    induction members with
    | nil => rfl
    | cons m rest ih => rw [mapMembers, ih, List.map_cons]
  rw [mapReals, hmembers]

/-- Names stay as they are. -/
theorem distinct_mapReals {v : Json} (h : v.Distinct) : (v.mapReals f).Distinct := by
  induction v using nestedInduction with
  | leaf v hleaf =>
    refine distinct_of_isLeaf ?_
    cases v with
    | number n => cases n <;> rfl
    | _ => first | rfl | cases hleaf
  | array items ih =>
    rw [mapReals_array, distinct_array]
    intro v hv
    obtain ⟨item, hitem, rfl⟩ := List.mem_map.mp hv
    exact ih item hitem (distinct_array.mp h item hitem)
  | object members ih =>
    obtain ⟨hnames, hvalues⟩ := distinct_object.mp h
    rw [mapReals_object, distinct_object, List.map_map]
    refine ⟨hnames, fun m hm => ?_⟩
    obtain ⟨member, hmember, rfl⟩ := List.mem_map.mp hm
    exact ih member hmember (hvalues member hmember)

theorem mapReals_id (v : Json) : v.mapReals id = v := by
  induction v using nestedInduction with
  | leaf v hleaf =>
    cases v with
    | number n => cases n <;> rfl
    | _ => first | rfl | cases hleaf
  | array items ih =>
    rw [mapReals_array, List.map_congr_left ih, List.map_id']
  | object members ih =>
    have hmembers : members.map (fun m => (m.1, m.2.mapReals id)) = members.map id :=
      List.map_congr_left fun m hm => by rw [ih m hm]; rfl
    rw [mapReals_object, hmembers, List.map_id]

end MapReals

end Json
end ApiMapping
