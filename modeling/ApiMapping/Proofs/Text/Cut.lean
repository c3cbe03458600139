import ApiMapping.Text.Basic

/-!
# Starts, ends and pieces of texts

What a cut text was made of, and cutting as the inverse of joining.
-/

namespace ApiMapping
namespace Text

variable {start tail cs rest : List Char}

theorem afterStart?_eq_some_iff : afterStart? start cs = some rest ↔ cs = start ++ rest := by
  constructor
  · intro h
    induction start generalizing cs with
    | nil => simpa [afterStart?] using h
    | cons s start ih =>
      cases cs with
      | nil => simp [afterStart?] at h
      | cons c cs =>
        unfold afterStart? at h
        split at h
        · rename_i hc
          rw [hc, ih h, List.cons_append]
        · simp at h
  · rintro rfl
    exact afterStart?_append start rest

theorem afterStart?_eq_none_iff : afterStart? start cs = none ↔ ¬ start <+: cs := by
  rw [Option.eq_none_iff_forall_ne_some]
  constructor
  · rintro h ⟨rest, rfl⟩
    exact h rest (afterStart?_append start rest)
  · intro h rest hs
    exact h ⟨rest, (afterStart?_eq_some_iff.mp hs).symm⟩

/-- A start that is not there cannot be taken off. -/
theorem getD_afterStart?_of_ne (h : ∀ rest, cs ≠ start ++ rest) :
    (afterStart? start cs).getD cs = cs := by
  rw [afterStart?_eq_none_iff.mpr, Option.getD_none]
  rintro ⟨rest, rfl⟩
  exact h rest rfl

theorem beforeEnd?_eq_some_iff : beforeEnd? tail cs = some rest ↔ cs = rest ++ tail := by
  constructor
  · intro h
    obtain ⟨r, hr, rfl⟩ := Option.map_eq_some_iff.mp h
    have := congrArg List.reverse (afterStart?_eq_some_iff.mp hr)
    simpa using this
  · rintro rfl
    exact beforeEnd?_append tail rest

theorem beforeEnd?_eq_none_iff : beforeEnd? tail cs = none ↔ ¬ tail <:+ cs := by
  rw [Option.eq_none_iff_forall_ne_some]
  constructor
  · rintro h ⟨rest, rfl⟩
    exact h rest (beforeEnd?_append tail rest)
  · intro h rest hs
    exact h ⟨rest, (beforeEnd?_eq_some_iff.mp hs).symm⟩

variable {sep : Char}

theorem pieces_ne_nil (cs : List Char) : pieces sep cs ≠ [] := by
  cases cs with
  | nil => exact List.cons_ne_nil _ _
  | cons c cs =>
    unfold pieces
    split
    · exact List.cons_ne_nil _ _
    · cases pieces sep cs <;> exact List.cons_ne_nil _ _

theorem length_consPiece (c : Char) {ps : List (List Char)} (h : ps ≠ []) :
    (consPiece c ps).length = ps.length := by
  obtain ⟨p, rest, rfl⟩ := List.exists_cons_of_ne_nil h
  rfl

theorem consPiece_append (c : Char) {ps : List (List Char)} (h : ps ≠ []) (qs : List (List Char)) :
    consPiece c (ps ++ qs) = consPiece c ps ++ qs := by
  cases ps with
  | nil => exact absurd rfl h
  | cons p ps => rfl

/-- A separator ends a piece, whatever stands before and after it. -/
theorem pieces_append (before after : List Char) :
    pieces sep (before ++ sep :: after) = pieces sep before ++ pieces sep after := by
  induction before with
  | nil => simp [pieces]
  | cons c before ih =>
    rw [List.cons_append, pieces, pieces, ih]
    split
    · rfl
    · exact consPiece_append c (pieces_ne_nil before) _

theorem pieces_of_not_mem {cs : List Char} (h : sep ∉ cs) : pieces sep cs = [cs] := by
  induction cs with
  | nil => rfl
  | cons c cs ih =>
    rw [List.mem_cons, not_or] at h
    rw [pieces, if_neg (Ne.symm h.1), ih h.2]
    rfl

/-- Of joined texts, one stands between those before it and those behind it. -/
theorem intercalate_append_cons (front : List (List Char)) (part : List Char)
    (back : List (List Char)) :
    [sep].intercalate (front ++ part :: back) =
      front.flatMap (· ++ [sep]) ++ part ++ back.flatMap (sep :: ·) := by
  induction front generalizing part back with
  | nil =>
    induction back generalizing part with
    | nil => simp
    | cons next back ih => simpa [List.intercalate_cons_cons] using ih next
  | cons first front ih =>
    cases front with
    | nil => simpa [List.intercalate_cons_cons] using ih part back
    | cons second front => simpa [List.intercalate_cons_cons] using ih part back

/-- More text behind joined texts goes to the last of them. -/
theorem intercalate_concat_append (parts : List (List Char)) (last more : List Char) :
    [sep].intercalate (parts ++ [last ++ more]) = [sep].intercalate (parts ++ [last]) ++ more := by
  simp [intercalate_append_cons]

/-- The pieces of joined texts are the texts. -/
theorem pieces_intercalate {parts : List (List Char)} (hne : parts ≠ [])
    (h : ∀ part ∈ parts, sep ∉ part) : pieces sep ([sep].intercalate parts) = parts := by
  induction parts with
  | nil => exact absurd rfl hne
  | cons part parts ih =>
    have hpart := pieces_of_not_mem (h part List.mem_cons_self)
    cases parts with
    | nil => rwa [List.intercalate_singleton]
    | cons next parts =>
      rw [List.intercalate_cons_cons, List.append_assoc, List.singleton_append,
        pieces_append, hpart, ih (List.cons_ne_nil _ _) fun p hp => h p (List.mem_cons_of_mem _ hp)]
      rfl

end Text
end ApiMapping
