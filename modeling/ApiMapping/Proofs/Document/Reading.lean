import ApiMapping.Document.Record
import ApiMapping.Proofs.Success

/-!
# Reading what a document holds

Lists, mappings and records that are complete are read part by part, and read as a whole
if every part is.
-/

namespace ApiMapping
namespace Document

variable {α β γ : Type}

theorem mapM_of_forall₂ {ε : Type} {read : α → Except ε γ} {value : β → γ} {xs : List α}
    {ys : List β} (h : List.Forall₂ (fun x y => read x = .ok (value y)) xs ys) :
    xs.mapM read = .ok (ys.map value) := by
  apply mapM_eq_ok_iff.mpr
  exact List.forall₂_map_right_iff.mpr h

namespace Node

theorem list_sequence {read : Node → Except ReadError γ} {value : β → γ} {items : List Node}
    {ys : List β} (h : List.Forall₂ (fun item y => read item = .ok (value y)) items ys)
    (expected : String) (positional : Bool) :
    list expected read (.sequence positional items .closed) = .ok (ys.map value) := by
  simp only [list, itemsOf, bind, Except.bind, mapM_of_forall₂ h]
  rfl

/-- The members of a mapping keep their order, whatever their names are. -/
theorem entries_mapping {read : Node → Except ReadError γ} {name : β → String} {value : β → γ}
    {members : List (Node × Node)} {ys : List β}
    (h : List.Forall₂
      (fun m y => m.1.keyText = .ok (name y) ∧ read m.2 = .ok (value y)) members ys)
    (expected : String) :
    entries expected read (.mapping members .closed) =
      .ok (ys.map fun y => (name y, value y)) := by
  have hread : List.Forall₂ (fun (m : Node × Node) y => (do
      let key ← m.1.keyText
      let v ← read m.2
      return (key, v)) = Except.ok (name y, value y)) members ys := by
    refine h.imp ?_
    rintro m y ⟨hkey, hvalue⟩
    rw [hkey, hvalue]
    rfl
  have hall := mapM_of_forall₂ hread
  change (members.mapM _ >>= fun values => Ending.closed.check >>= fun _ => .ok values) = _
  rw [hall]
  rfl

end Node

namespace Field

variable {read : Node → Except ReadError β} {set : β → α → α} {node : Node} {v : β}

theorem read_needed (h : read node = .ok v) (name : String) (a : α) :
    (needed name read set).read node a = .ok (set v a) := by
  simp only [needed, h, bind, Except.bind, pure, Except.pure]

theorem read_defaulted (h : read node = .ok v) (name : String) (a : α) :
    (defaulted name read set).read node a = .ok (set v a) := by
  simp only [defaulted, h, bind, Except.bind, pure, Except.pure]

end Field

namespace Record

variable {r : Record α}

/-- A member that names a field is read into the record. -/
theorem readMembers_field {seen : List String} {a next : α} {key value : Node} {name : String}
    {f : Field α} (hkey : key.keyText = .ok name) (hfield : r.field? name = some f)
    (hnew : name ∉ seen) (hread : f.read value a = .ok next) (rest : List (Node × Node)) :
    r.readMembers seen a ((key, value) :: rest) = r.readMembers (name :: seen) next rest := by
  have hseen : seen.contains name = false := by simpa using hnew
  simp only [readMembers, hkey, hfield, hseen, hread, bind, Except.bind]
  rfl

theorem read_mapping {members : List (Node × Node)} {seen : List String} {a : α}
    (hmembers : r.readMembers [] r.blank members = .ok (seen, a))
    (hmissing : r.missing? seen = none) : r.read (.mapping members .closed) = .ok a := by
  simp only [read, Node.membersOf, hmembers, hmissing, bind, Except.bind]
  rfl

/-- One member for one field and one for another, in this order. -/
theorem read_two {key key' value value' : Node} {name name' : String} {f f' : Field α}
    {a b : α} (hkey : key.keyText = .ok name) (hkey' : key'.keyText = .ok name')
    (hfield : r.field? name = some f) (hfield' : r.field? name' = some f') (hne : name' ≠ name)
    (hread : f.read value r.blank = .ok a) (hread' : f'.read value' a = .ok b)
    (hmissing : r.missing? [name', name] = none) :
    r.read (.mapping [(key, value), (key', value')] .closed) = .ok b := by
  refine read_mapping ?_ hmissing
  rw [readMembers_field hkey hfield List.not_mem_nil hread,
    readMembers_field hkey' hfield' (by simpa using hne) hread', readMembers]

end Record
end Document
end ApiMapping
