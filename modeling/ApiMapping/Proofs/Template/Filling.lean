import ApiMapping.Proofs.Json.Positions
import ApiMapping.Template.Resolve

/-!
# What filling changes in a template

The strings that are replaced are those at interpreted positions. Everything else is laid
out in the result as in the template: names, order and lengths are kept, and so is all that
is copied.
-/

namespace ApiMapping
namespace Template

open Json

/-- Every branch to an item of an array is followed by one to a member of an object. -/
def Interpreted (path : List Branch) : Prop :=
  ∀ i place, path[i]? = some (.item place) → ∃ place', path[i + 1]? = some (.member place')

section Interpreted

variable {path rest : List Branch}

@[simp] theorem interpreted_nil : Interpreted [] := by
  intro i place h
  cases h

@[simp] theorem interpreted_member_cons {place : Nat} :
    Interpreted (.member place :: rest) ↔ Interpreted rest := by
  constructor
  · intro h i
    exact h (i + 1)
  · intro h i
    cases i with
    | zero =>
      intro _ hitem
      cases hitem
    | succ i => exact h i

theorem interpreted_item_cons {place : Nat} :
    Interpreted (.item place :: rest) ↔
      (∃ place' below, rest = .member place' :: below) ∧ Interpreted rest := by
  constructor
  · intro h
    refine ⟨?_, fun i => h (i + 1)⟩
    obtain ⟨place', hmember⟩ := h 0 place rfl
    cases rest with
    | nil => cases hmember
    | cons b below =>
      cases hmember
      exact ⟨place', below, rfl⟩
  · rintro ⟨⟨place', below, rfl⟩, hrest⟩ i
    cases i with
    | zero =>
      intro _ _
      exact ⟨place', rfl⟩
    | succ i => exact hrest i

end Interpreted

/-! ## Filling one level -/

section Level

variable {leaf : String → Json}

/-- What becomes of an item of an array. -/
def fillItem (leaf : String → Json) : Json → Json
  | .object members => fill leaf (.object members)
  | v => v

/-- What becomes of a value behind a branch. -/
def fillBehind (leaf : String → Json) : Branch → Json → Json
  | .member _ => fill leaf
  | .item _ => fillItem leaf

/-- An item is filled, or copied because it is no object. -/
theorem fillItem_cases (leaf : String → Json) (v : Json) :
    (∃ members, v = .object members ∧ fillItem leaf v = fill leaf v) ∨
      ((∀ members, v ≠ .object members) ∧ fillItem leaf v = v) := by
  cases v with
  | object members => exact .inl ⟨members, rfl, rfl⟩
  | _ => exact .inr ⟨fun _ => nofun, rfl⟩

theorem fillItems_eq_map (items : List Json) : fillItems leaf items = items.map (fillItem leaf) := by
  induction items with
  | nil => simp [fillItems]
  | cons v rest ih => cases v <;> simp [fillItems, fillItem, fill, ih]

theorem fillMembers_eq_map (members : List (String × Json)) :
    fillMembers leaf members = members.map fun m => (m.1, fill leaf m.2) := by
  induction members with
  | nil => simp [fillMembers]
  | cons m rest ih => simp [fillMembers, ih]

theorem fill_array (items : List Json) :
    fill leaf (.array items) = .array (items.map (fillItem leaf)) := by
  rw [fill, fillItems_eq_map]

theorem fill_object (members : List (String × Json)) :
    fill leaf (.object members) = .object (members.map fun m => (m.1, fill leaf m.2)) := by
  rw [fill, fillMembers_eq_map]

/-- Parameters are the filled members that have a text. -/
theorem fillQuery_eq_filterMap (members : List (String × Json)) :
    fillQuery leaf members = (fillMembers leaf members).filterMap fun (name, value) =>
      (plain? value).map fun v => (name, v) := by
  rw [fillMembers_eq_map, List.filterMap_map]
  rfl

theorem fill_of_isLeaf {v : Json} (hv : v.isLeaf = true) (hstring : ∀ s, v ≠ .string s) :
    fill leaf v = v := by
  cases v with
  | string s => exact absurd rfl (hstring s)
  | array | object => cases hv
  | _ => rfl

theorem outline_fill {v : Json} (hv : v.isLeaf = false) : (fill leaf v).outline = v.outline := by
  cases v with
  | array items => simp [fill_array, outline]
  | object members => simp [fill_object, outline]
  | _ => cases hv

theorem into?_fill {b : Branch} {t : Json} (ht : t.isLeaf = false) :
    b.into? (fill leaf t) = (b.into? t).map (fillBehind leaf b) := by
  cases t with
  | array items =>
    rw [fill_array]
    cases b with
    | member i => rfl
    | item i => simp [Branch.into?, fillBehind]
  | object members =>
    rw [fill_object]
    cases b with
    | member i => simp [Branch.into?, fillBehind, Function.comp_def]
    | item i => rfl
  | _ => cases ht

theorem at?_fill_cons {b : Branch} {rest : List Branch} {t u : Json} (hu : b.into? t = some u) :
    (fill leaf t).at? (b :: rest) = (fillBehind leaf b u).at? rest := by
  rw [at?_cons, into?_fill (isLeaf_of_into? hu), hu]
  rfl

end Level

/-! ## Filling at a position -/

section Position

variable {leaf : String → Json} {path : List Branch} {t v : Json}

theorem at?_fill_of_interpreted (hpath : Interpreted path) (h : t.at? path = some v) :
    (fill leaf t).at? path = some (fill leaf v) := by
  induction path generalizing t with
  | nil =>
    cases h
    rfl
  | cons b rest ih =>
    obtain ⟨u, hu, hv⟩ := at?_cons_eq_some_iff.mp h
    rw [at?_fill_cons hu]
    cases b with
    | member place => exact ih (interpreted_member_cons.mp hpath) hv
    | item place =>
      obtain ⟨⟨place', below, rfl⟩, hrest⟩ := interpreted_item_cons.mp hpath
      obtain ⟨w, hw, -⟩ := at?_cons_eq_some_iff.mp hv
      rcases fillItem_cases leaf u with ⟨members, -, hfilled⟩ | ⟨hobject, -⟩
      · rw [fillBehind, hfilled]
        exact ih hrest hv
      · -- Only an object has members.
        cases u with
        | object members => exact absurd rfl (hobject members)
        | _ => cases hw

/-- Away from the interpreted positions all but objects is copied. -/
theorem at?_fill_of_not_interpreted (hpath : ¬ Interpreted path)
    (hobject : ∀ members, v ≠ .object members) (h : t.at? path = some v) :
    (fill leaf t).at? path = some v := by
  induction path generalizing t with
  | nil => exact absurd interpreted_nil hpath
  | cons b rest ih =>
    obtain ⟨u, hu, hv⟩ := at?_cons_eq_some_iff.mp h
    rw [at?_fill_cons hu]
    cases b with
    | member place =>
      apply ih _ hv
      rwa [interpreted_member_cons] at hpath
    | item place =>
      rcases fillItem_cases leaf u with ⟨members, rfl, hfilled⟩ | ⟨-, hcopied⟩
      · rw [fillBehind, hfilled]
        apply ih _ hv
        intro hrest
        cases rest with
        | nil =>
          cases hv
          exact hobject members rfl
        | cons b below =>
          cases b with
          | member place' =>
            exact hpath (interpreted_item_cons.mpr ⟨⟨place', below, rfl⟩, hrest⟩)
          | item place' => cases hv
      · rw [fillBehind, hcopied]
        exact hv

/-- Whatever its position, a value is filled or copied. -/
theorem at?_fill (leaf : String → Json) (h : t.at? path = some v) :
    (fill leaf t).at? path = some (fill leaf v) ∨ (fill leaf t).at? path = some v := by
  induction path generalizing t with
  | nil =>
    cases h
    exact .inl rfl
  | cons b rest ih =>
    obtain ⟨u, hu, hv⟩ := at?_cons_eq_some_iff.mp h
    rw [at?_fill_cons hu]
    cases b with
    | member place => exact ih hv
    | item place =>
      rw [fillBehind]
      rcases fillItem_cases leaf u with ⟨-, -, hfilled⟩ | ⟨-, hcopied⟩
      · rw [hfilled]
        exact ih hv
      · rw [hcopied]
        exact .inr hv

end Position

/-! ## Filling as a whole -/

section Whole

variable {leaf : String → Json} {t t' : Json}

/-- All strings that are there to be replaced have the property. -/
def EveryLeaf (p : String → Prop) (t : Json) : Prop :=
  ∀ path s, t.at? path = some (.string s) → Interpreted path → p s

section EveryLeaf

variable {p : String → Prop}

theorem EveryLeaf.of_member {u : Json} {place : Nat} (h : EveryLeaf p t)
    (hu : (Branch.member place).into? t = some u) : EveryLeaf p u := by
  intro path s hs hpath
  apply h (.member place :: path) s
  · exact at?_cons_eq_some_iff.mpr ⟨u, hu, hs⟩
  · exact interpreted_member_cons.mpr hpath

theorem EveryLeaf.of_item {members : List (String × Json)} {place : Nat} (h : EveryLeaf p t)
    (hu : (Branch.item place).into? t = some (.object members)) :
    EveryLeaf p (.object members) := by
  intro path s hs hpath
  -- The way to a string in an object begins with a member.
  cases path with
  | nil => cases hs
  | cons b below =>
    cases b with
    | item place' => cases hs
    | member place' =>
      apply h (.item place :: .member place' :: below) s
      · exact at?_cons_eq_some_iff.mpr ⟨_, hu, hs⟩
      · exact interpreted_item_cons.mpr ⟨⟨place', below, rfl⟩, hpath⟩

end EveryLeaf

/-- Leaves that are replaced alike make the same result. -/
theorem fill_congr {leaf' : String → Json} (h : EveryLeaf (fun s => leaf s = leaf' s) t) :
    fill leaf t = fill leaf' t := by
  induction t using nestedInduction with
  | leaf v hv =>
    cases v with
    | string s =>
      rw [fill, fill]
      exact h [] s rfl interpreted_nil
    | array | object => cases hv
    | _ => rfl
  | array items ih =>
    have hitems : ∀ v ∈ items, fillItem leaf v = fillItem leaf' v := by
      intro v hv
      obtain ⟨i, hi⟩ := List.mem_iff_getElem?.mp hv
      cases v with
      | object members => exact ih _ hv (h.of_item hi)
      | _ => rfl
    rw [fill_array, fill_array, List.map_congr_left hitems]
  | object members ih =>
    have hmembers : ∀ m ∈ members, (m.1, fill leaf m.2) = (m.1, fill leaf' m.2) := by
      intro m hm
      obtain ⟨i, hi⟩ := List.mem_iff_getElem?.mp hm
      have hbranch : (Branch.member i).into? (.object members) = some m.2 := by
        simp [Branch.into?, hi]
      rw [ih m hm (h.of_member hbranch)]
    rw [fill_object, fill_object, List.map_congr_left hmembers]

theorem fillQuery_congr {leaf' : String → Json} {members : List (String × Json)}
    (h : EveryLeaf (fun s => leaf s = leaf' s) (.object members)) :
    fillQuery leaf members = fillQuery leaf' members := by
  have hobject := fill_congr h
  rw [fill, fill, Json.object.injEq] at hobject
  rw [fillQuery_eq_filterMap, fillQuery_eq_filterMap, hobject]

theorem fill_string (t : Json) : fill .string t = t := by
  induction t using nestedInduction with
  | leaf v hv =>
    cases v with
    | array | object => cases hv
    | _ => rfl
  | array items ih =>
    have hitems : ∀ v ∈ items, fillItem .string v = v := by
      intro v hv
      cases v with
      | object members => exact ih _ hv
      | _ => rfl
    rw [fill_array, List.map_congr_left hitems, List.map_id']
  | object members ih =>
    have hmembers : ∀ m ∈ members, (m.1, fill .string m.2) = m := by
      intro m hm
      rw [ih m hm]
    rw [fill_object, List.map_congr_left hmembers, List.map_id']

/-- Nothing in the template is there to be replaced. -/
def Inert (t : Json) : Prop := ∀ path s, t.at? path = some (.string s) → ¬ Interpreted path

theorem fill_eq_self (h : Inert t) : fill leaf t = t := by
  have hleaves : EveryLeaf (fun s => leaf s = .string s) t := by
    intro path s hs hpath
    exact absurd hpath (h path s hs)
  rw [fill_congr hleaves, fill_string]

theorem outline_fill_congr (h : t.outline = t'.outline) :
    (fill leaf t).outline = (fill leaf t').outline := by
  rcases eq_or_nested_of_outline_eq h with rfl | ⟨ht, ht'⟩
  · rfl
  · rw [outline_fill ht, outline_fill ht', h]

/-- Items of one outline are both filled or both copied. -/
theorem fillItem_congr (leaf : String → Json) (h : t.outline = t'.outline) :
    (fillItem leaf t = fill leaf t ∧ fillItem leaf t' = fill leaf t') ∨
      (fillItem leaf t = t ∧ fillItem leaf t' = t') := by
  rcases cases_of_outline_eq h with ⟨-, rfl⟩ | ⟨items, items', rfl, rfl, -⟩ |
    ⟨members, members', rfl, rfl, -⟩
  · rcases fillItem_cases leaf t with ⟨-, -, hfilled⟩ | ⟨-, hcopied⟩
    · exact .inl ⟨hfilled, hfilled⟩
    · exact .inr ⟨hcopied, hcopied⟩
  · exact .inr ⟨rfl, rfl⟩
  · exact .inl ⟨rfl, rfl⟩

/-- Differences stay where they are. -/
theorem agreeOutside_fill {differing : List Branch → Prop} (h : AgreeOutside differing t t') :
    AgreeOutside differing (fill leaf t) (fill leaf t') := by
  intro path hpath
  induction path generalizing differing t t' with
  | nil =>
    have hroot : ¬ differing [] := hpath [] List.nil_prefix
    rw [at?_nil, at?_nil, Option.map_some, Option.map_some,
      outline_fill_congr (outline_eq_of_agreeOutside h hroot)]
  | cons b rest ih =>
    have hroot : ¬ differing [] := hpath [] List.nil_prefix
    have houtline := outline_eq_of_agreeOutside h hroot
    have hbelow : ∀ start, start <+: rest → ¬ differing (b :: start) := by
      intro start hstart
      exact hpath (b :: start) (List.cons_prefix_cons.mpr ⟨rfl, hstart⟩)
    rcases into?_of_outline_eq houtline b with ⟨hu, hu'⟩ | ⟨u, u', hu, hu'⟩
    · rcases eq_or_nested_of_outline_eq houtline with rfl | ⟨ht, ht'⟩
      · rfl
      · rw [at?_cons, at?_cons, into?_fill ht, into?_fill ht', hu, hu']
    · have hagree := agreeOutside_into? h hroot hu hu'
      rw [at?_fill_cons hu, at?_fill_cons hu']
      cases b with
      | member place => exact ih hagree hbelow
      | item place =>
        rw [fillBehind]
        have hitem := outline_eq_of_agreeOutside hagree (hbelow [] List.nil_prefix)
        rcases fillItem_congr leaf hitem with ⟨hfilled, hfilled'⟩ | ⟨hcopied, hcopied'⟩
        · rw [hfilled, hfilled']
          exact ih hagree hbelow
        · rw [hcopied, hcopied']
          exact hagree rest hbelow

end Whole

/-- The function replaces the strings at interpreted positions and leaves all else as it is. -/
structure RewritesStrings (leaf : String → Json) (rewrite : Json → Json) : Prop where
  /-- Objects keep their names in order, and arrays their lengths. -/
  shape : ∀ t path v, t.at? path = some v → v.isLeaf = false →
    ∃ w, (rewrite t).at? path = some w ∧ w.outline = v.outline
  replaced : ∀ t path s, t.at? path = some (.string s) → Interpreted path →
    (rewrite t).at? path = some (leaf s)
  kept : ∀ t path v, t.at? path = some v → v.isLeaf = true →
    ¬ (Interpreted path ∧ ∃ s, v = .string s) → (rewrite t).at? path = some v
  /-- An array in an array is copied with everything in it. -/
  copied : ∀ t path items, t.at? path = some (.array items) → ¬ Interpreted path →
    (rewrite t).at? path = some (.array items)
  /-- A template without anything to replace is its own result. -/
  constant : ∀ t, Inert t → rewrite t = t
  /-- Templates that differ at some positions only, such as interpreted ones, have results that
  differ at most there. -/
  confined : ∀ differing t t', AgreeOutside differing t t' →
    AgreeOutside differing (rewrite t) (rewrite t')

/-- Filling a template evaluates the strings at its interpreted positions. -/
theorem rewritesStrings_fill (plugins : PluginTable) (ctx : Context) :
    RewritesStrings (resolveLeaf plugins ctx) (fill (resolveLeaf plugins ctx)) where
  shape t path v h hv := by
    rcases at?_fill (resolveLeaf plugins ctx) h with hfilled | hcopied
    · exact ⟨_, hfilled, outline_fill hv⟩
    · exact ⟨v, hcopied, rfl⟩
  replaced t path s h hpath := by
    rw [at?_fill_of_interpreted hpath h, fill]
  kept t path v h hv hnot := by
    by_cases hpath : Interpreted path
    · have hstring : ∀ s, v ≠ .string s := fun s hs => hnot ⟨hpath, s, hs⟩
      rw [at?_fill_of_interpreted hpath h, fill_of_isLeaf hv hstring]
    · apply at?_fill_of_not_interpreted hpath _ h
      rintro members rfl
      cases hv
  copied t path items h hpath := at?_fill_of_not_interpreted hpath (fun _ => nofun) h
  constant t h := fill_eq_self h
  confined differing t t' h := agreeOutside_fill h

example (leaf : String → Json) :
    fill leaf (.array [.string "a", .object [("k", .string "b")], .array [.string "c"]]) =
      .array [.string "a", .object [("k", leaf "b")], .array [.string "c"]] := rfl

end Template
end ApiMapping
