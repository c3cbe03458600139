import ApiMapping.Json.Basic

/-!
# Ways into a JSON value

A position is a way down from the root of a value by places, which tells members apart even where
a name is repeated. A path leads down by the names of members and by the places of items.
-/

namespace ApiMapping
namespace Json

/-! ## Positions

A position is a way down from the root of a value. A branch to a member of an object is given
by the member's place, which tells members apart even where a name is repeated.
-/

inductive Branch where
  | member (place : Nat)
  | item (place : Nat)
deriving DecidableEq, Repr

def Branch.into? : Branch → Json → Option Json
  | .member i, .object members => members[i]?.map Prod.snd
  | .item i, .array items => items[i]?
  | _, _ => none

/-- The value at a position. -/
def at? : List Branch → Json → Option Json
  | [], v => some v
  | b :: rest, v => b.into? v >>= at? rest

def isLeaf : Json → Bool
  | .array _ | .object _ => false
  | _ => true

/-- A value without what is below it: all of a leaf, and how a nested value is laid out. -/
inductive Outline where
  | leaf (v : Json)
  | array (length : Nat)
  | object (names : List String)

def outline : Json → Outline
  | .array items => .array items.length
  | .object members => .object (members.map Prod.fst)
  | v => .leaf v

/-- The values look the same everywhere but at the given positions and below them. -/
def AgreeOutside (differing : List Branch → Prop) (v w : Json) : Prop :=
  ∀ path, (∀ start, start <+: path → ¬ differing start) →
    (v.at? path).map outline = (w.at? path).map outline

section Positions

variable {b : Branch} {rest path : List Branch} {t t' u v : Json}

@[simp] theorem at?_nil : t.at? [] = some t := rfl

theorem at?_cons : t.at? (b :: rest) = b.into? t >>= at? rest := rfl

theorem at?_cons_eq_some_iff :
    t.at? (b :: rest) = some v ↔ ∃ u, b.into? t = some u ∧ u.at? rest = some v := by
  rw [at?_cons, Option.bind_eq_bind, Option.bind_eq_some_iff]

theorem isLeaf_of_into? (h : b.into? t = some u) : t.isLeaf = false := by
  cases t <;> cases b <;> first | rfl | cases h

/-- Values of one outline are the same leaf, or two arrays or two objects laid out alike. -/
theorem cases_of_outline_eq (h : t.outline = t'.outline) :
    (t.isLeaf = true ∧ t = t') ∨
      (∃ items items', t = .array items ∧ t' = .array items' ∧ items.length = items'.length) ∨
      ∃ members members', t = .object members ∧ t' = .object members' ∧
        members.map Prod.fst = members'.map Prod.fst := by
  cases t with
  | array items =>
    cases t' <;> simp only [outline, Outline.array.injEq, reduceCtorEq] at h
    exact .inr (.inl ⟨items, _, rfl, rfl, h⟩)
  | object members =>
    cases t' <;> simp only [outline, Outline.object.injEq, reduceCtorEq] at h
    exact .inr (.inr ⟨members, _, rfl, rfl, h⟩)
  | _ => cases t' <;> simp_all [outline, isLeaf]

theorem eq_or_nested_of_outline_eq (h : t.outline = t'.outline) :
    t = t' ∨ (t.isLeaf = false ∧ t'.isLeaf = false) := by
  rcases cases_of_outline_eq h with ⟨-, rfl⟩ | ⟨items, items', rfl, rfl, -⟩ |
    ⟨members, members', rfl, rfl, -⟩
  · exact .inl rfl
  · exact .inr ⟨rfl, rfl⟩
  · exact .inr ⟨rfl, rfl⟩

theorem isSome_into?_of_outline_eq (h : t.outline = t'.outline) (b : Branch) :
    (b.into? t).isSome = (b.into? t').isSome := by
  rcases cases_of_outline_eq h with ⟨-, rfl⟩ | ⟨items, items', rfl, rfl, hlength⟩ |
    ⟨members, members', rfl, rfl, hnames⟩
  · rfl
  · cases b with
    | member i => rfl
    | item i =>
      rw [Bool.eq_iff_iff]
      simp [Branch.into?, hlength]
  · have hlength : members.length = members'.length := by
      rw [← List.length_map Prod.fst, hnames, List.length_map]
    cases b with
    | member i =>
      rw [Bool.eq_iff_iff]
      simp [Branch.into?, hlength]
    | item i => rfl

/-- The outline decides which branches there are. -/
theorem into?_of_outline_eq (h : t.outline = t'.outline) (b : Branch) :
    (b.into? t = none ∧ b.into? t' = none) ∨ ∃ u u', b.into? t = some u ∧ b.into? t' = some u' := by
  have hsome := isSome_into?_of_outline_eq h b
  cases hu : b.into? t <;> cases hu' : b.into? t'
  case none.none => exact .inl ⟨rfl, rfl⟩
  case some.some u u' => exact .inr ⟨u, u', rfl, rfl⟩
  all_goals simp [hu, hu'] at hsome

section Agreement

variable {differing : List Branch → Prop}

theorem outline_eq_of_agreeOutside (h : AgreeOutside differing t t') (hroot : ¬ differing []) :
    t.outline = t'.outline := by
  have houtline := h [] fun start hstart => by
    rw [List.prefix_nil.mp hstart]
    exact hroot
  exact Option.some.inj houtline

/-- Below a branch, the positions behind it are left. -/
theorem agreeOutside_into? {u' : Json} (h : AgreeOutside differing t t') (hroot : ¬ differing [])
    (hu : b.into? t = some u) (hu' : b.into? t' = some u') :
    AgreeOutside (fun path => differing (b :: path)) u u' := by
  intro path hpath
  have hbelow := h (b :: path) fun start hstart => by
    cases start with
    | nil => exact hroot
    | cons first start =>
      obtain ⟨rfl, hrest⟩ := List.cons_prefix_cons.mp hstart
      exact hpath start hrest
  rw [at?_cons, at?_cons, hu, hu'] at hbelow
  exact hbelow

end Agreement

/-- A property of all values follows from that of their parts. -/
@[elab_as_elim]
theorem nestedInduction {motive : Json → Prop} (leaf : ∀ v, v.isLeaf = true → motive v)
    (array : ∀ items, (∀ v ∈ items, motive v) → motive (.array items))
    (object : ∀ members : List (String × Json), (∀ m ∈ members, motive m.2) →
      motive (.object members)) (v : Json) : motive v :=
  @Json.rec motive (fun items => ∀ v ∈ items, motive v) (fun members => ∀ m ∈ members, motive m.2)
    (fun m => motive m.2) (leaf _ rfl) (fun _ => leaf _ rfl) (fun _ => leaf _ rfl)
    (fun _ => leaf _ rfl) array object (fun _ h => absurd h List.not_mem_nil)
    (fun _ _ hv hrest => List.forall_mem_cons.mpr ⟨hv, hrest⟩)
    (fun _ h => absurd h List.not_mem_nil)
    (fun _ _ hm hrest => List.forall_mem_cons.mpr ⟨hm, hrest⟩) (fun _ _ hv => hv) v

end Positions

/-! ## Paths

A path leads from a value down to a value in it, by the names of members and by the places
of items.
-/

inductive Key where
  | name (k : String)
  | index (i : Nat)
deriving DecidableEq, Repr

def Key.into? : Key → Json → Option Json
  | .name k, v => v.member? k
  | .index i, v => v.item? i

/-- The value at the end of a path. -/
def along? : List Key → Json → Option Json
  | [], v => some v
  | key :: rest, v => key.into? v >>= along? rest

section Paths

variable {key : Key} {path : List Key} {u v w : Json}

@[simp] theorem along?_nil : v.along? [] = some v := rfl

theorem along?_cons_eq_some_iff :
    v.along? (key :: path) = some w ↔ ∃ u, key.into? v = some u ∧ u.along? path = some w := by
  rw [along?, Option.bind_eq_bind, Option.bind_eq_some_iff]

theorem into?_name_eq_some_iff {k : String} :
    (Key.name k).into? v = some u ↔ ∃ members, v = .object members ∧ members.lookup k = some u := by
  cases v <;> simp [Key.into?, member?]

theorem into?_index_eq_some_iff {i : Nat} :
    (Key.index i).into? v = some u ↔ ∃ items, v = .array items ∧ items[i]? = some u := by
  cases v <;> simp [Key.into?, item?]

end Paths

end Json
end ApiMapping
