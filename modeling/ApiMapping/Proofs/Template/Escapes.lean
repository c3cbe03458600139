import ApiMapping.Proofs.Template.Naming

/-!
# Keys with every character protected

A backslash in front makes any character a part of the key, but not all that is done to a
locator respects it. A key `#` is a length however it was written, and white space at the very
end is trimmed before the backslash in front of it is seen.
-/

namespace ApiMapping
namespace Template

namespace Locator

/-- The path of the keys, with a backslash in front of every character. -/
def escapedPath (keys : List String) : String :=
  String.ofList (['.'].intercalate (keys.map escaped))

variable {parts : List (List Char)} {keys init : List String} {k : String} {b : Char}

/-! ## Where the path starts and ends -/

theorem head?_intercalate {c : Char} (hne : parts ≠ []) (h : ∀ part ∈ parts, part.head? = some c) :
    (['.'].intercalate parts).head? = some c := by
  cases parts with
  | nil => exact absurd rfl hne
  | cons part parts =>
    have hpart := h part List.mem_cons_self
    cases parts with
    | nil => rwa [List.intercalate_singleton]
    | cons next parts =>
      rw [List.intercalate_cons_cons, List.append_assoc, List.head?_append, hpart]
      rfl

theorem head?_escaped_append (more : List Char) (h : k ≠ "" ∨ more.head? = some '\\') :
    (escaped k ++ more).head? = some '\\' := by
  unfold escaped
  cases hk : k.toList with
  | nil => exact h.resolve_left fun hne => hne (String.toList_eq_nil_iff.mp hk)
  | cons c cs => rfl

theorem escaped_push (k : String) (b : Char) : escaped (k.push b) = escaped k ++ ['\\'] ++ [b] := by
  rw [escaped, escaped, String.toList_push, List.flatMap_append, List.append_assoc]
  rfl

theorem complete_escaped (k : String) : Complete (escaped k) := by
  unfold escaped
  induction k.toList with
  | nil => exact .nil
  | cons c cs ih => exact .escaped c ih

/-- A path that starts with a backslash and does not end in white space is read as it is. -/
theorem body_of_protected {last : List Char} {d : Char}
    (hhead : ∀ part ∈ parts ++ [last ++ [d]], part.head? = some '\\')
    (hd : Text.isBlank d = false) :
    body (['.'].intercalate (parts ++ [last ++ [d]])) =
      ['.'].intercalate (parts ++ [last ++ [d]]) := by
  have hstart := head?_intercalate (by simp) hhead
  refine body_of_bare (.of_ends hstart (by decide) ?_ hd)
  rw [Text.intercalate_concat_append, List.getLast?_concat]

theorem body_append_blank {cs : List Char} (hb : Text.isBlank b = true) :
    body (cs ++ [b]) = body cs := by
  have htrim : Text.trim ([] ++ cs ++ [b]) = Text.trim cs := Text.trim_pad rfl (by simpa using hb)
  rw [List.nil_append] at htrim
  rw [body, htrim, body]

/-! ## The steps of the path -/

theorem head?_of_mem_map_escaped (h : "" ∉ init) :
    ∀ part ∈ init.map escaped, part.head? = some '\\' := by
  rw [List.forall_mem_map]
  intro k hk
  have hhead := head?_escaped_append [] (.inl fun he : k = "" => h (he ▸ hk))
  rwa [List.append_nil] at hhead

theorem scan_escaped_key (h : k ≠ "") : scan [] (escaped k) = [stepOf k] := by
  have hscan := scan_escaped k.toList [] []
  rw [List.append_nil, List.append_nil, scan.eq_1, flush_key h] at hscan
  exact hscan

theorem flatMap_scan_escaped (h : "" ∉ init) :
    (init.map escaped).flatMap (scan []) = init.map stepOf := by
  induction init with
  | nil => rfl
  | cons k init ih =>
    rw [List.mem_cons, not_or] at h
    rw [List.map_cons, List.flatMap_cons, ih h.2, scan_escaped_key (Ne.symm h.1)]
    rfl

/-- Each key is a step, and the last part is read by itself. -/
theorem scan_escaped_concat (h : "" ∉ init) (last : List Char) :
    scan [] (['.'].intercalate (init.map escaped ++ [last])) = init.map stepOf ++ scan [] last := by
  have hcomplete : ∀ part ∈ (init.map escaped ++ [last]).dropLast, Complete part := by
    rw [List.dropLast_concat, List.forall_mem_map]
    exact fun k _ => complete_escaped k
  rw [scan_intercalate (by simp) hcomplete, List.flatMap_append, flatMap_scan_escaped h,
    List.flatMap_singleton]

theorem segments_of_not_blank (h : "" ∉ init) (hb : Text.isBlank b = false) :
    segments (escapedPath (init ++ [k.push b])) = (init ++ [k.push b]).map stepOf := by
  have hhead : ∀ part ∈ init.map escaped ++ [escaped k ++ ['\\'] ++ [b]],
      part.head? = some '\\' := by
    rw [← escaped_push, ← List.map_singleton, ← List.map_append]
    exact head?_of_mem_map_escaped (by simp [h])
  rw [segments, escapedPath, String.toList_ofList, List.map_append, List.map_singleton,
    escaped_push, body_of_protected hhead hb, ← escaped_push, scan_escaped_concat h,
    scan_escaped_key (by simp), List.map_append]
  rfl

/-- White space at the end is gone, and the backslash in front of it protects nothing. -/
theorem segments_of_blank (h : "" ∉ init) (hb : Text.isBlank b = true) :
    segments (escapedPath (init ++ [k.push b])) =
      init.map stepOf ++ flush k.toList.reverse := by
  have hhead : ∀ part ∈ init.map escaped ++ [escaped k ++ ['\\']], part.head? = some '\\' := by
    rw [List.forall_mem_append, List.forall_mem_singleton]
    exact ⟨head?_of_mem_map_escaped h, head?_escaped_append _ (.inr rfl)⟩
  -- Only one blank goes, since a backslash stands before it.
  have hlast := scan_escaped k.toList [] ['\\']
  rw [List.append_nil, scan.eq_3] at hlast
  rw [segments, escapedPath, String.toList_ofList, List.map_append, List.map_singleton,
    escaped_push, Text.intercalate_concat_append, body_append_blank hb,
    body_of_protected hhead (by decide), scan_escaped_concat h, escaped, hlast]

end Locator

open Locator

variable {keys init : List String} {k : String} {v w : Json}

/-- No object has a length, so a key `#` on the way leads nowhere. -/
theorem follow_map_stepOf_append (hcount : "#" ∈ keys) (more : List Json.Key)
    (h : v.along? (keys.map .name ++ more) = some w) (rest : List Segment) :
    follow (keys.map stepOf ++ rest) v = none := by
  induction keys generalizing v with
  | nil => cases hcount
  | cons k keys ih =>
    obtain ⟨u, hu, hrest⟩ := Json.along?_cons_eq_some_iff.mp h
    by_cases hk : k = "#"
    · obtain ⟨members, rfl, -⟩ := Json.into?_name_eq_some_iff.mp hu
      subst hk
      rw [List.map_cons, List.cons_append]
      cases keys.map stepOf ++ rest <;> rfl
    · have hmem : "#" ∈ keys := (List.mem_cons.mp hcount).resolve_left (Ne.symm hk)
      rw [List.map_cons, List.cons_append, stepOf_of_ne hk,
        follow_cons_of_ne_count Segment.noConfusion, step?_of_into?_name hu]
      exact ih hmem hrest

theorem exists_concat_push (hne : keys ≠ []) (h : "" ∉ keys) :
    ∃ (init : List String) (k : String) (b : Char), keys = init ++ [k.push b] ∧ "" ∉ init := by
  obtain ⟨init, last, rfl⟩ := (List.eq_nil_or_concat' keys).resolve_left hne
  rw [List.mem_append, not_or, List.mem_singleton] at h
  have hlast : last.toList ≠ [] := fun he => h.2 (String.toList_eq_nil_iff.mp he).symm
  obtain ⟨cs, b, hcs⟩ := (List.eq_nil_or_concat' last.toList).resolve_left hlast
  have hpush : last = (String.ofList cs).push b := by
    rw [← String.toList_inj, hcs, String.toList_push, String.toList_ofList]
  exact ⟨init, String.ofList cs, b, by rw [hpush], h.1⟩

/-- The steps are the keys exactly if none is `#` and the last does not end in white space. -/
theorem segments_escapedPath_eq_iff (hne : keys ≠ []) (h : "" ∉ keys) :
    segments (escapedPath keys) = keys.map .key ↔
      "#" ∉ keys ∧ ∀ k ∈ keys.getLast?, ∀ b ∈ k.toList.getLast?, Text.isBlank b = false := by
  obtain ⟨init, k, b, rfl, hinit⟩ := exists_concat_push hne h
  have hend : (∀ last ∈ (init ++ [k.push b]).getLast?, ∀ c ∈ (String.toList last).getLast?,
      Text.isBlank c = false) ↔ Text.isBlank b = false := by
    simp
  rw [hend]
  cases hb : Text.isBlank b with
  | false => rw [segments_of_not_blank hinit hb, map_stepOf_eq_iff, and_iff_left rfl]
  | true =>
    refine iff_of_false ?_ fun hfalse => Bool.noConfusion hfalse.2
    rw [segments_of_blank hinit hb, List.map_append]
    intro heq
    have hlast := eq_toList_of_flush (List.append_inj_right heq (by simp))
    rw [String.toList_push] at hlast
    simpa using congrArg List.length hlast

/-- What the path of protected keys selects, in all documents. -/
structure ReadsEscaped (keys : List String) : Prop where
  /-- The members that the keys name are reached exactly if no key is `#` and the last one does
  not end in white space. -/
  reached_iff : (∀ document v, document.along? (keys.map .name) = some v →
    select document (escapedPath keys) = some v) ↔
      "#" ∉ keys ∧ ∀ k ∈ keys.getLast?, ∀ b ∈ k.toList.getLast?, Text.isBlank b = false
  /-- A key `#` is read as a length, which members do not have. -/
  counted : "#" ∈ keys → ∀ document v, document.along? (keys.map .name) = some v →
    select document (escapedPath keys) = none
  /-- White space at the end of the last key is not a part of it. -/
  shortened : ∀ init k b, keys = init ++ [k.push b] → Text.isBlank b = true → "#" ∉ init →
    k ≠ "" → k ≠ "#" → ∀ document,
      select document (escapedPath keys) = descend? (init ++ [k]) document
  /-- A last key of one white space is not looked up at all. -/
  skipped : ∀ init b, keys = init ++ ["".push b] → Text.isBlank b = true → "#" ∉ init →
    ∀ document, select document (escapedPath keys) = descend? init document

/-- Protected keys lead to the members they name, but for a key `#` and white space at the end. -/
theorem readsEscaped (hne : keys ≠ []) (h : "" ∉ keys) : ReadsEscaped keys where
  reached_iff := by
    unfold select
    rw [follow_leads_iff, segments_escapedPath_eq_iff hne h]
  counted hcount document v hv := by
    obtain ⟨init, k, b, rfl, hinit⟩ := exists_concat_push hne h
    cases hb : Text.isBlank b with
    | false =>
      have hmiss := follow_map_stepOf_append hcount [] (by rwa [List.append_nil]) []
      rwa [List.append_nil, ← segments_of_not_blank hinit hb] at hmiss
    | true =>
      -- The last key is not `#` then, and what is trimmed from it does not matter.
      have hother : "#" ≠ k.push b := by
        intro he
        have hsign := (String.push_inj (s := "") (c := '#')).mp he
        rw [← hsign.2] at hb
        exact absurd hb (by decide)
      have hmem : "#" ∈ init := by simpa [hother] using hcount
      rw [List.map_append] at hv
      rw [select, segments_of_blank hinit hb]
      exact follow_map_stepOf_append hmem _ hv _
  shortened init k b hkeys hb hcount hempty hname document := by
    subst hkeys
    have hinit : "" ∉ init := fun hmem => h (List.mem_append_left _ hmem)
    rw [select, segments_of_blank hinit hb, flush_key hempty, map_stepOf_eq_iff.mpr hcount,
      stepOf_of_ne hname, ← List.map_singleton, ← List.map_append, follow_map_key]
  skipped init b hkeys hb hcount document := by
    subst hkeys
    have hinit : "" ∉ init := fun hmem => h (List.mem_append_left _ hmem)
    have hnone : flush "".toList.reverse = [] := rfl
    rw [select, segments_of_blank hinit hb, map_stepOf_eq_iff.mpr hcount, hnone, List.append_nil,
      follow_map_key]

/-- Signs within keys, and white space that does not end the last one. -/
theorem readsEscaped_sample :
    ["$.a b ", "[0]\\"] ≠ [] ∧ "" ∉ ["$.a b ", "[0]\\"] ∧ ReadsEscaped ["$.a b ", "[0]\\"] := by
  have hne : ["$.a b ", "[0]\\"] ≠ [] := by decide
  have hkeys : "" ∉ ["$.a b ", "[0]\\"] := by decide
  exact ⟨hne, hkeys, readsEscaped hne hkeys⟩

/-- The member `#` is missed, and so is one whose name ends in a blank. -/
theorem select_escapedPath_missed :
    (escapedPath ["#"] = "\\#" ∧
      (Json.object [("#", .bool true)]).along? [.name "#"] = some (.bool true) ∧
      select (.object [("#", .bool true)]) (escapedPath ["#"]) = none) ∧
    (escapedPath ["a "] = "\\a\\ " ∧
      (Json.object [("a ", .bool true)]).along? [.name "a "] = some (.bool true) ∧
      select (.object [("a ", .bool true)]) (escapedPath ["a "]) = none) :=
  ⟨⟨by decide, rfl, rfl⟩, ⟨by decide, rfl, rfl⟩⟩

end Template
end ApiMapping
