import ApiMapping.Proofs.Document.Reading
import ApiMapping.Proofs.Document.Values

/-!
# Records written in full

A record that is written as the object of all its fields in order is read as if it were the
list of their values. What every field keeps, reading keeps.
-/

namespace ApiMapping
namespace Document

variable {α β : Type}

namespace Field

variable {read : Node → Except ReadError β} {set : β → α → α} {node : Node} {a b : α}

theorem read_needed_eq_ok_iff {name : String} :
    (needed name read set).read node a = .ok b ↔ ∃ v, read node = .ok v ∧ set v a = b := by
  simp [needed, bind_eq_ok_iff, pure, Except.pure]

theorem read_defaulted_eq_ok_iff {name : String} :
    (defaulted name read set).read node a = .ok b ↔ ∃ v, read node = .ok v ∧ set v a = b := by
  simp [defaulted, bind_eq_ok_iff, pure, Except.pure]

end Field

namespace Record

variable {r : Record α} {fields : List (Field α)} {a b : α}

theorem field?_of_mem {f : Field α} (h : (r.fields.map Field.name).Nodup) (hf : f ∈ r.fields) :
    r.field? f.name = some f := by
  obtain ⟨g, hg⟩ : ∃ g, r.field? f.name = some g :=
    Option.isSome_iff_exists.mp (List.find?_isSome.mpr ⟨f, hf, by simp⟩)
  have hname : g.name = f.name := by simpa using List.find?_some hg
  rw [hg, List.inj_on_of_nodup_map h (List.mem_of_find?_eq_some hg) hf hname]

/-- With the fields in `done` read, members of all other fields are read as their values. -/
theorem readMembers_of_readItems (hnames : (r.fields.map Field.name).Nodup)
    (done : List (Field α)) {fields : List (Field α)} (hfields : r.fields = done ++ fields)
    {seen : List String}
    (hseen : ∀ name, name ∈ seen ↔ name ∈ done.map Field.name)
    {members : List (String × Json)} (hmembers : members.map Prod.fst = fields.map Field.name)
    {i : Nat} (h : r.readItems .closed i fields (ofItems (members.map Prod.snd)) a = .ok b) :
    ∃ seen', r.readMembers seen a (ofMembers members) = .ok (seen', b) ∧
      ∀ f ∈ r.fields, f.name ∈ seen' := by
  induction fields generalizing done seen members a i with
  | nil =>
    obtain rfl : members = [] := by simpa using hmembers
    obtain rfl : a = b := Except.ok.inj h
    refine ⟨seen, rfl, fun f hf => (hseen f.name).mpr (List.mem_map_of_mem ?_)⟩
    rwa [hfields, List.append_nil] at hf
  | cons f fields ih =>
    rcases members with _ | ⟨⟨name, value⟩, members⟩
    · cases hmembers
    obtain ⟨rfl, hrest⟩ : name = f.name ∧ members.map Prod.fst = fields.map Field.name := by
      simpa using hmembers
    obtain ⟨next, hread, hmore⟩ := bind_eq_ok_iff.mp h
    have hnew : f.name ∉ seen := by
      rw [hfields, List.map_append, List.map_cons] at hnames
      rw [hseen]
      exact fun hdone => (List.nodup_append.mp hnames).2.2 _ hdone _ List.mem_cons_self rfl
    have hfield : r.field? f.name = some f :=
      field?_of_mem hnames (by rw [hfields]; simp)
    rw [ofMembers, readMembers_field rfl hfield hnew hread]
    refine ih (done ++ [f]) (by rw [hfields, List.append_cons]) (fun name => ?_) hrest hmore
    rw [List.mem_cons, hseen, List.map_append, List.mem_append]
    simp [or_comm]

/-- One field after another. -/
theorem readItems_ofJson {f : Field α} {v : Json} {values : List Json} {next : α} {ending : Ending}
    {i : Nat} (h : f.read (ofJson v) a = .ok next)
    (hmore : r.readItems ending (i + 1) fields (ofItems values) next = .ok b) :
    r.readItems ending i (f :: fields) (ofItems (v :: values)) a = .ok b := by
  rw [ofItems, readItems, h]
  exact hmore

/-- The object of all fields in order says what the list of their values says. -/
theorem read_ofJson_object (hnames : (r.fields.map Field.name).Nodup)
    {members : List (String × Json)} (hmembers : members.map Prod.fst = r.fields.map Field.name)
    (h : r.readItems .closed 0 r.fields (ofItems (members.map Prod.snd)) r.blank = .ok b) :
    r.read (ofJson (.object members)) = .ok b := by
  obtain ⟨seen, hread, hall⟩ := readMembers_of_readItems hnames [] rfl (fun _ => Iff.rfl) hmembers h
  refine read_mapping hread (List.find?_eq_none.mpr fun f hf => ?_)
  simp [hall f hf]

end Record

/-! ## What reading keeps -/

/-- A field that is read from such a node keeps the property of the record. -/
def Field.Keeps (f : Field α) (Q : Node → Prop) (P : α → Prop) : Prop :=
  ∀ node a b, Q node → P a → f.read node a = .ok b → P b

section Keeps

variable {Q : Node → Prop} {P : α → Prop} {read : Node → Except ReadError β} {set : β → α → α}

theorem Field.keeps_needed {name : String}
    (h : ∀ node v a, Q node → read node = .ok v → P a → P (set v a)) :
    (needed name read set).Keeps Q P := by
  intro node a b hnode ha hread
  obtain ⟨v, hv, rfl⟩ := read_needed_eq_ok_iff.mp hread
  exact h node v a hnode hv ha

theorem Field.keeps_defaulted {name : String}
    (h : ∀ node v a, Q node → read node = .ok v → P a → P (set v a)) :
    (defaulted name read set).Keeps Q P := by
  intro node a b hnode ha hread
  obtain ⟨v, hv, rfl⟩ := read_defaulted_eq_ok_iff.mp hread
  exact h node v a hnode hv ha

namespace Record

variable {r : Record α} {a b : α}

theorem readItems_keeps {ending : Ending} {i : Nat} {fields : List (Field α)} {items : List Node}
    (hfields : ∀ f ∈ fields, f.Keeps Q P) (hitems : ∀ item ∈ items, Q item) (ha : P a)
    (h : r.readItems ending i fields items a = .ok b) : P b := by
  induction fields generalizing items i a with
  | nil =>
    cases items with
    | cons item items => cases h
    | nil =>
      obtain ⟨_, _, hb⟩ := bind_eq_ok_iff.mp h
      cases hb
      exact ha
  | cons f fields ih =>
    rw [List.forall_mem_cons] at hfields
    cases items with
    | nil =>
      obtain ⟨_, _, hrest⟩ := bind_eq_ok_iff.mp h
      split at hrest
      · cases hrest
      · exact ih hfields.2 hitems ha hrest
    | cons item items =>
      rw [List.forall_mem_cons] at hitems
      obtain ⟨next, hnext, hrest⟩ := bind_eq_ok_iff.mp h
      exact ih hfields.2 hitems.2 (hfields.1 item a next hitems.1 ha hnext) hrest

theorem readMembers_keeps {members : List (Node × Node)} {seen seen' : List String}
    (hfields : ∀ f ∈ r.fields, f.Keeps Q P) (hmembers : ∀ m ∈ members, Q m.2) (ha : P a)
    (h : r.readMembers seen a members = .ok (seen', b)) : P b := by
  induction members generalizing seen a with
  | nil =>
    cases h
    exact ha
  | cons m members ih =>
    rw [List.forall_mem_cons] at hmembers
    obtain ⟨name, _, hmember⟩ := bind_eq_ok_iff.mp h
    split at hmember
    · obtain ⟨_, _, hrest⟩ := bind_eq_ok_iff.mp hmember
      exact ih hmembers.2 ha hrest
    · rename_i f hf
      split at hmember
      · cases hmember
      · obtain ⟨next, hnext, hrest⟩ := bind_eq_ok_iff.mp hmember
        have hkeeps := hfields f (List.mem_of_find?_eq_some hf)
        exact ih hmembers.2 (hkeeps m.2 a next hmembers.1 ha hnext) hrest

/-- A property that holds of the blank record and is kept by every field holds of what is read. -/
theorem read_keeps {room : Nat} {node : Node} (hfits : node.Fits (room + 1)) (hblank : P r.blank)
    (hfields : ∀ f ∈ r.fields, f.Keeps (Node.Fits room) P) (h : r.read node = .ok b) : P b := by
  unfold read at h
  split at h
  · cases hfits with
    | sequence parts => exact readItems_keeps hfields parts hblank h
  · cases h
  · simp only [bind_eq_ok_iff, Prod.exists] at h
    obtain ⟨members, ending, hmembers, seen, a, hread, _, _, hb⟩ := h
    have ha := readMembers_keeps hfields (hfits.of_membersOf hmembers) hblank hread
    split at hb
    · cases hb
    · cases hb
      exact ha

end Record

end Keeps
end Document
end ApiMapping
