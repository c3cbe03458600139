import ApiMapping.Proofs.Template.Naming

/-!
# Plain keys behind the root

A path of plain keys may be written behind `$.`. What is taken off for the root is more than
that: if the first key starts with a `$` itself, that character goes too, and the locator
selects what other keys lead to. Keys further on are read as they are.
-/

namespace ApiMapping
namespace Template

namespace Locator

variable {cs : List Char} {parts : List (List Char)}

/-! ## Plain parts -/

theorem complete_of_plain (h : ∀ c ∈ cs, c ≠ '\\' ∧ c ≠ '.' ∧ c ≠ '[') : Complete cs := by
  induction cs with
  | nil => exact .nil
  | cons c cs ih =>
    obtain ⟨⟨hescape, -, hbracket⟩, hcs⟩ := List.forall_mem_cons.mp h
    exact .plain hescape hbracket (ih hcs)

theorem scan_of_plain (h : ∀ c ∈ cs, c ≠ '\\' ∧ c ≠ '.' ∧ c ≠ '[') :
    scan [] cs = flush cs.reverse := by
  have hscan := scan_plain h [] []
  rwa [List.append_nil, List.append_nil] at hscan

theorem trim_intercalate (h : ∀ part ∈ parts, Text.trim part = part) :
    Text.trim (['.'].intercalate parts) = ['.'].intercalate parts := by
  induction parts with
  | nil => rfl
  | cons part parts ih =>
    rw [List.forall_mem_cons] at h
    cases parts with
    | nil => rw [List.intercalate_singleton, h.1]
    | cons next parts =>
      rw [List.intercalate_cons_cons, List.append_assoc, List.singleton_append]
      exact trim_joined h.1 (ih h.2)

/-! ## What is taken off in front -/

theorem withoutRoot_subset (cs : List Char) : withoutRoot cs ⊆ cs := by
  unfold withoutRoot
  split
  · exact List.subset_cons_self _ _
  · exact List.Subset.refl _

theorem withoutRoot_intercalate (part : List Char) (parts : List (List Char)) :
    withoutRoot (['.'].intercalate (part :: parts)) =
      ['.'].intercalate (withoutRoot part :: parts) := by
  cases parts with
  | nil => rw [List.intercalate_singleton, List.intercalate_singleton]
  | cons next parts =>
    rw [List.intercalate_cons_cons, List.intercalate_cons_cons, List.append_assoc,
      List.append_assoc, List.singleton_append, withoutRoot_joined]

/-- Behind the root and its dot, the first part loses a root of its own. -/
theorem body_rooted {part : List Char} (h : ∀ p ∈ part :: parts, Text.trim p = p) :
    body (['.'].intercalate (['$'] :: part :: parts)) =
      ['.'].intercalate (withoutRoot part :: parts) := by
  have htrim := trim_intercalate (List.forall_mem_cons.mpr ⟨(by decide : Text.trim ['$'] = _), h⟩)
  rw [body_of_trimmed htrim, ← withoutRoot_intercalate, List.intercalate_cons_cons]
  rfl

end Locator

open Locator

/-- A key that needs no protection when it is written in a path. -/
structure PlainKey (k : String) : Prop where
  nonempty : k ≠ ""
  trimmed : Text.trim k.toList = k.toList
  not_count : k ≠ "#"
  no_sign : ∀ c ∈ k.toList, c ≠ '\\' ∧ c ≠ '.' ∧ c ≠ '['

instance (k : String) : Decidable (PlainKey k) :=
  decidable_of_iff (k ≠ "" ∧ Text.trim k.toList = k.toList ∧ k ≠ "#" ∧
      k.toList.all (fun c => c != '\\' && c != '.' && c != '[') = true) (by
    simp only [List.all_eq_true, Bool.and_eq_true, bne_iff_ne, and_assoc]
    exact ⟨fun ⟨hempty, htrim, hcount, hsign⟩ => ⟨hempty, htrim, hcount, hsign⟩,
      fun ⟨hempty, htrim, hcount, hsign⟩ => ⟨hempty, htrim, hcount, hsign⟩⟩)

/-- The path of the keys, with the root in front. -/
def rooted (keys : List String) : String := "$." ++ ".".intercalate keys

variable {k : String} {rest : List String}

theorem toList_rooted (k : String) (rest : List String) :
    (rooted (k :: rest)).toList =
      ['.'].intercalate (['$'] :: k.toList :: rest.map String.toList) := by
  rw [List.intercalate_cons_cons, rooted, String.toList_append, String.toList_intercalate]
  rfl

theorem PlainKey.flush_key (h : PlainKey k) : flush k.toList.reverse = [.key k] := by
  rw [Locator.flush_key h.nonempty, stepOf_of_ne h.not_count]

theorem flatMap_scan_of_plainKey (h : ∀ key ∈ rest, PlainKey key) :
    (rest.map String.toList).flatMap (scan []) = rest.map .key := by
  induction rest with
  | nil => rfl
  | cons k rest ih =>
    obtain ⟨hk, hrest⟩ := List.forall_mem_cons.mp h
    rw [List.map_cons, List.flatMap_cons, ih hrest, scan_of_plain hk.no_sign, hk.flush_key]
    rfl

/-- The first key is read without its root, the others as they are. -/
theorem segments_rooted (h : ∀ key ∈ k :: rest, PlainKey key) :
    segments (rooted (k :: rest)) = flush (withoutRoot k.toList).reverse ++ rest.map .key := by
  obtain ⟨hk, hrest⟩ := List.forall_mem_cons.mp h
  have htrim : ∀ p ∈ k.toList :: rest.map String.toList, Text.trim p = p := by
    rw [← List.map_cons, List.forall_mem_map]
    exact fun key hkey => (h key hkey).trimmed
  have hfirst : ∀ c ∈ withoutRoot k.toList, c ≠ '\\' ∧ c ≠ '.' ∧ c ≠ '[' :=
    fun c hc => hk.no_sign c (withoutRoot_subset _ hc)
  have hcomplete : ∀ p ∈ withoutRoot k.toList :: rest.map String.toList, Complete p := by
    refine List.forall_mem_cons.mpr ⟨complete_of_plain hfirst, ?_⟩
    rw [List.forall_mem_map]
    exact fun key hkey => complete_of_plain (hrest key hkey).no_sign
  have hscan := scan_intercalate (List.cons_ne_nil _ _)
    fun p hp => hcomplete p (List.dropLast_subset _ hp)
  rw [segments, toList_rooted, body_rooted htrim, hscan, List.flatMap_cons, scan_of_plain hfirst,
    flatMap_scan_of_plainKey hrest]

/-- The first key is one step for itself unless it starts with a root. -/
theorem flush_withoutRoot_eq_iff (h : PlainKey k) :
    flush (withoutRoot k.toList).reverse = [.key k] ↔ k.toList.head? ≠ some '$' := by
  constructor
  · intro hflush hroot
    obtain ⟨name, hname⟩ := List.head?_eq_some_iff.mp hroot
    have hself := eq_toList_of_flush hflush
    rw [hname] at hself
    exact List.cons_ne_self '$' name hself.symm
  · intro hroot
    rw [withoutRoot_of_not_root hroot, h.flush_key]

/-- What plain keys behind the root select, in all documents. -/
structure ReadsRooted (k : String) (rest : List String) : Prop where
  /-- The root is transparent exactly in front of keys of which the first has no `$` in front. -/
  transparent_iff : (∀ document, select document (rooted (k :: rest)) =
    descend? (k :: rest) document) ↔ k.toList.head? ≠ some '$'
  /-- A first key `$` is not looked up at all. -/
  skipped : k = "$" → ∀ document, select document (rooted (k :: rest)) = descend? rest document
  /-- What remains of a first key `$#` is read as the length of an array. -/
  counted : k = "$#" → ∀ document, select document (rooted (k :: rest)) =
    follow (.count :: rest.map .key) document
  /-- Any other first key is looked up without the `$` in front. -/
  shortened : ∀ name, k = "$" ++ name → name ≠ "" → name ≠ "#" → ∀ document,
    select document (rooted (k :: rest)) = descend? (name :: rest) document

/-- Plain keys behind the root lead where they lead, but for a `$` in front of the first. -/
theorem readsRooted (h : ∀ key ∈ k :: rest, PlainKey key) : ReadsRooted k rest where
  transparent_iff := by
    have hk := h k List.mem_cons_self
    unfold select
    rw [segments_rooted h, follow_eq_descend?_iff, ← flush_withoutRoot_eq_iff hk, List.map_cons,
      ← List.singleton_append, List.append_cancel_right_eq]
  skipped hname document := by
    rw [select, segments_rooted h, hname]
    exact follow_map_key rest document
  counted hname document := by
    rw [select, segments_rooted h, hname]
    rfl
  shortened name hname hempty hcount document := by
    have hkey : withoutRoot k.toList = name.toList := by
      rw [hname, String.toList_append]
      rfl
    rw [select, segments_rooted h, hkey, flush_key hempty, stepOf_of_ne hcount]
    exact follow_map_key (name :: rest) document

/-- A `$` in front of a key further on does no harm. -/
theorem readsRooted_sample :
    (∀ key ∈ ["items", "0", "$ref"], PlainKey key) ∧ ReadsRooted "items" ["0", "$ref"] := by
  have hplain : ∀ key ∈ ["items", "0", "$ref"], PlainKey key := by
    simp only [List.forall_mem_cons, List.not_mem_nil, false_implies, implies_true, and_true]
    exact ⟨by decide, by decide, by decide⟩
  exact ⟨hplain, readsRooted hplain⟩

/-- Behind the root, the member `$ref` is missed. -/
theorem select_rooted_ref_ne :
    rooted ["$ref"] = "$.$ref" ∧ PlainKey "$ref" ∧
      descend? ["$ref"] (.object [("$ref", .bool true)]) = some (.bool true) ∧
      select (.object [("$ref", .bool true)]) (rooted ["$ref"]) = none :=
  ⟨by decide, by decide, rfl, rfl⟩

end Template
end ApiMapping
