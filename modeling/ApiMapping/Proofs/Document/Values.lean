import ApiMapping.Document.Values
import ApiMapping.Proofs.Document.Reading
import ApiMapping.Proofs.Json.Spellable
import ApiMapping.Proofs.Keyed

/-!
# Values read as they are

Members whose names differ stay as they are, so a value without repeated names is read out of
its document unchanged.
-/

namespace ApiMapping
namespace Document

variable {α β : Type}

theorem ofItems_eq_map (items : List Json) : ofItems items = items.map ofJson := by
  induction items with
  | nil => rfl
  | cons item rest ih => rw [ofItems, ih, List.map_cons]

theorem ofMembers_eq_map (members : List (String × Json)) :
    ofMembers members = members.map fun m => (.scalar (.text m.1), ofJson m.2) := by
  induction members with
  | nil => rfl
  | cons m rest ih => rw [ofMembers, ih, List.map_cons]

namespace Node

/-! ## One member to each name -/

theorem foldl_put_of_nodup {entries : List (String × α)} (table : List (String × α))
    (h : ((table ++ entries).map Prod.fst).Nodup) :
    entries.foldl (fun table (name, value) => Keyed.put name value table) table =
      table ++ entries := by
  induction entries generalizing table with
  | nil => simp
  | cons entry rest ih =>
    have hnew : entry.1 ∉ table.map Prod.fst := by
      rw [List.map_append, List.nodup_append] at h
      exact fun hmem => h.2.2 _ hmem _ (by simp) rfl
    have hput : Keyed.put entry.1 entry.2 table = table ++ [entry] := Keyed.put_of_not_mem hnew _
    rw [List.append_cons] at h ⊢
    rw [← ih _ h, ← hput, List.foldl_cons]

theorem collapse_of_nodup {entries : List (String × α)} (h : (entries.map Prod.fst).Nodup) :
    collapse entries = entries :=
  foldl_put_of_nodup [] h

theorem nodup_collapse (entries : List (String × α)) :
    ((collapse entries).map Prod.fst).Nodup :=
  List.foldlRecOn entries _ (motive := fun table : List (String × α) => (table.map Prod.fst).Nodup)
    List.nodup_nil fun _ h _ _ => Keyed.nodup_put h _ _

theorem mem_of_mem_collapse {entries : List (String × α)} {entry : String × α}
    (h : entry ∈ collapse entries) : entry ∈ entries := by
  refine List.foldlRecOn entries _ (motive := fun table => ∀ entry ∈ table, entry ∈ entries)
    (fun _ h => absurd h List.not_mem_nil) ?_ entry h
  intro table htable first hfirst entry hentry
  rcases Keyed.mem_of_mem_put hentry with rfl | hold
  · exact hfirst
  · exact htable entry hold

/-! ## Values -/

theorem jsonItems_eq_ok_iff {items : List Node} {values : List Json} :
    jsonItems items = .ok values ↔ List.Forall₂ (fun node v => node.json = .ok v) items values := by
  induction items generalizing values with
  | nil => simp [jsonItems, eq_comm]
  | cons item rest ih =>
    simp only [jsonItems, bind_eq_ok_iff, pure, Except.pure, Except.ok.injEq, ih,
      List.forall₂_cons_left_iff]
    grind

theorem jsonMembers_eq_ok_iff {members : List (Node × Node)} {entries : List (String × Json)} :
    jsonMembers members = .ok entries ↔
      List.Forall₂ (fun m entry => m.1.keyText = .ok entry.1 ∧ m.2.json = .ok entry.2)
        members entries := by
  induction members generalizing entries with
  | nil => simp [jsonMembers, eq_comm]
  | cons m rest ih =>
    simp only [jsonMembers, bind_eq_ok_iff, pure, Except.pure, Except.ok.injEq, ih,
      List.forall₂_cons_left_iff]
    grind

theorem json_ofJson {v : Json} (h : v.Distinct) : (ofJson v).json = .ok v := by
  induction v using Json.nestedInduction with
  | leaf v hv => cases v <;> first | rfl | cases hv
  | array items ih =>
    have hitems : jsonItems (ofItems items) = .ok items := by
      rw [jsonItems_eq_ok_iff, ofItems_eq_map, List.forall₂_map_left_iff, List.forall₂_same]
      exact fun v hv => ih v hv (Json.distinct_array.mp h v hv)
    simp only [ofJson, json, hitems, bind, Except.bind, pure, Except.pure, Ending.check]
  | object members ih =>
    obtain ⟨hnames, hvalues⟩ := Json.distinct_object.mp h
    have hmembers : jsonMembers (ofMembers members) = .ok members := by
      rw [jsonMembers_eq_ok_iff, ofMembers_eq_map, List.forall₂_map_left_iff, List.forall₂_same]
      exact fun m hm => ⟨rfl, ih m hm (hvalues m hm)⟩
    simp only [ofJson, json, hmembers, bind, Except.bind, pure, Except.pure, Ending.check,
      collapse_of_nodup hnames]

/-! ## Readers of one type -/

theorem list_ofJson {read : Node → Except ReadError α} {write : α → Json} {ys : List α}
    (h : ∀ y ∈ ys, read (ofJson (write y)) = .ok y) (expected : String) :
    list expected read (ofJson (.array (ys.map write))) = .ok ys := by
  have hitems : List.Forall₂ (fun item y => read item = .ok (id y))
      (ofItems (ys.map write)) ys := by
    rw [ofItems_eq_map, List.map_map, List.forall₂_map_left_iff, List.forall₂_same]
    exact h
  rw [ofJson, list_sequence hitems, List.map_id]

theorem entries_ofJson {read : Node → Except ReadError α} {name : β → String}
    {value : β → α} {write : β → Json} {ys : List β}
    (h : ∀ y ∈ ys, read (ofJson (write y)) = .ok (value y)) (expected : String) :
    entries expected read (ofJson (.object (ys.map fun y => (name y, write y)))) =
      .ok (ys.map fun y => (name y, value y)) := by
  have hmembers : List.Forall₂ (fun m y => m.1.keyText = .ok (name y) ∧ read m.2 = .ok (value y))
      (ofMembers (ys.map fun y => (name y, write y))) ys := by
    rw [ofMembers_eq_map, List.map_map, List.forall₂_map_left_iff, List.forall₂_same]
    exact fun y hy => ⟨rfl, h y hy⟩
  rw [ofJson, entries_mapping hmembers]

theorem text_ofJson (s : String) : text (ofJson (.string s)) = .ok s := rfl

theorem bool_ofJson (b : Bool) : bool (ofJson (.bool b)) = .ok b := rfl

theorem natural_ofJson {n limit : Nat} (h : n < limit) (expected : String) :
    natural limit expected (ofJson (Json.ofNat n)) = .ok n := by
  simp [natural, integer?, ofJson, Json.ofNat, h]

/-- What is not there is written as null, and no record is. -/
theorem optional_ofJson {read : Node → Except ReadError α} {write : α → Json}
    (hobject : ∀ y, ∃ members, write y = .object members) {a : Option α}
    (h : ∀ y, a = some y → read (ofJson (write y)) = .ok y) :
    optional read (ofJson ((a.map write).getD .null)) = .ok a := by
  cases a with
  | none => rfl
  | some y =>
    obtain ⟨members, hmembers⟩ := hobject y
    have hread := h y rfl
    rw [hmembers] at hread
    rw [Option.map_some, Option.getD_some, hmembers]
    change some <$> read (ofJson (.object members)) = _
    rw [hread]
    rfl

end Node

/-! ## What a JSON text delivers -/

/-- A scalar that has its type by itself. -/
def Scalar.Proper : Scalar → Prop
  | .number n => n.Proper
  | .word .. => False
  | _ => True

namespace Node

/-- A node that stands where `room` levels may still be used. What is nested too deeply is
marked as such, and then it may hold anything. -/
inductive Fits : Nat → Node → Prop
  | scalar {room : Nat} {s : Scalar} (proper : s.Proper) : Fits room (.scalar s)
  | sequence {room : Nat} {positional : Bool} {items : List Node} {ending : Ending}
      (parts : ∀ item ∈ items, Fits room item) : Fits (room + 1) (.sequence positional items ending)
  | mapping {room : Nat} {members : List (Node × Node)} {ending : Ending}
      (parts : ∀ m ∈ members, Fits room m.2) : Fits (room + 1) (.mapping members ending)
  | deep {room : Nat} {node : Node} : Fits room (.deep node)
  | stopped {room : Nat} {stop : Stop} : Fits room (.stopped stop)

/-- Values that are read keep within the levels, with one member to each name. -/
theorem Fits.of_json {room : Nat} {node : Node} {v : Json} (hfits : node.Fits room)
    (h : node.json = .ok v) : v.Distinct ∧ v.Spellable room := by
  induction hfits generalizing v with
  | @scalar room s proper =>
    rcases s with _ | b | n | s | ⟨style, tag, s⟩ | f
    case word => exact proper.elim
    case unusable => cases h
    all_goals
      cases h
      exact ⟨(Json.everywhere_of_isLeaf rfl).mpr trivial,
        (Json.everywhere_of_isLeaf rfl).mpr proper, Nat.zero_le _⟩
  | @sequence room positional items ending _ ih =>
    simp only [json, bind_eq_ok_iff, jsonItems_eq_ok_iff, pure, Except.pure, Except.ok.injEq] at h
    obtain ⟨values, hvalues, _, _, rfl⟩ := h
    have hparts : ∀ v ∈ values, v.Distinct ∧ v.Spellable room := by
      intro v hv
      obtain ⟨item, hitem, hjson⟩ := exists_of_forall₂_right hvalues hv
      exact ih item hitem hjson
    exact ⟨Json.distinct_array.mpr fun v hv => (hparts v hv).1,
      Json.spellable_array.mpr fun v hv => (hparts v hv).2⟩
  | @mapping room members ending _ ih =>
    simp only [json, bind_eq_ok_iff, jsonMembers_eq_ok_iff, pure, Except.pure,
      Except.ok.injEq] at h
    obtain ⟨entries, hentries, _, _, rfl⟩ := h
    have hparts : ∀ m ∈ collapse entries, m.2.Distinct ∧ m.2.Spellable room := by
      intro m hm
      obtain ⟨member, hmember, -, hjson⟩ := exists_of_forall₂_right hentries (mem_of_mem_collapse hm)
      exact ih member hmember hjson
    exact ⟨Json.distinct_object.mpr ⟨nodup_collapse _, fun m hm => (hparts m hm).1⟩,
      Json.spellable_object.mpr fun m hm => (hparts m hm).2⟩
  | deep => cases h
  | stopped => cases h

theorem Fits.of_itemsOf {room : Nat} {node : Node} (hfits : node.Fits (room + 1))
    {expected : String} {items : List Node} {ending : Ending}
    (h : node.itemsOf expected = .ok (items, ending)) : ∀ item ∈ items, item.Fits room := by
  cases hfits with
  | sequence parts =>
    cases h
    exact parts
  | @scalar _ s proper => cases s <;> first | exact proper.elim | cases h
  | mapping => cases h
  | @deep _ node => cases node <;> cases h
  | stopped => cases h

theorem Fits.of_membersOf {room : Nat} {node : Node} (hfits : node.Fits (room + 1))
    {expected : String} {members : List (Node × Node)} {ending : Ending}
    (h : node.membersOf expected = .ok (members, ending)) : ∀ m ∈ members, m.2.Fits room := by
  cases hfits with
  | mapping parts =>
    cases h
    exact parts
  | @scalar _ s proper => cases s <;> first | exact proper.elim | cases h
  | sequence => cases h
  | @deep _ node => cases node <;> cases h
  | stopped => cases h

theorem Fits.of_list {room : Nat} {node : Node} (hfits : node.Fits (room + 1)) {expected : String}
    {read : Node → Except ReadError α} {values : List α}
    (h : list expected read node = .ok values) {v : α} (hv : v ∈ values) :
    ∃ item, item.Fits room ∧ read item = .ok v := by
  simp only [list, bind_eq_ok_iff, pure, Except.pure, Except.ok.injEq, Prod.exists] at h
  obtain ⟨items, ending, hitems, _, hvalues, _, _, rfl⟩ := h
  obtain ⟨item, hitem, hread⟩ := exists_of_forall₂_right (mapM_eq_ok_iff.mp hvalues) hv
  exact ⟨item, hfits.of_itemsOf hitems item hitem, hread⟩

theorem Fits.of_entries {room : Nat} {node : Node} (hfits : node.Fits (room + 1))
    {expected : String} {read : Node → Except ReadError α} {entries : List (String × α)}
    (h : Node.entries expected read node = .ok entries) {entry : String × α}
    (hentry : entry ∈ entries) : ∃ part, part.Fits room ∧ read part = .ok entry.2 := by
  simp only [Node.entries, bind_eq_ok_iff, pure, Except.pure, Except.ok.injEq, Prod.exists] at h
  obtain ⟨members, ending, hmembers, _, hvalues, _, _, rfl⟩ := h
  obtain ⟨m, hm, hread⟩ := exists_of_forall₂_right (mapM_eq_ok_iff.mp hvalues) hentry
  simp only [bind_eq_ok_iff, Except.ok.injEq] at hread
  obtain ⟨name, _, v, hv, rfl⟩ := hread
  exact ⟨m.2, hfits.of_membersOf hmembers m hm, hv⟩

end Node
end Document
end ApiMapping
