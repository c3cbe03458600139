import ApiMapping.Proofs.Template.Parentheses
import ApiMapping.Proofs.Text.Cut

/-!
# The parts of an argument list

Splitting an argument list gives the one way to write it as joined parts of which none has a
free comma and all but the last return to depth zero. A part can therefore be exchanged, and
the last one can be made longer, without a change in the others.
-/

namespace ApiMapping
namespace Template

open Text

theorem NoFreeComma.of_not_mem {depth : Nat} {cs : List Char} (h : ',' ∉ cs) :
    NoFreeComma depth cs := by
  rintro p s rfl
  simp at h

theorem NoFreeComma.cons {depth : Nat} {c : Char} {cs : List Char} (hc : ¬ (c = ',' ∧ depth = 0))
    (h : NoFreeComma (nextDepth depth c) cs) : NoFreeComma depth (c :: cs) := by
  intro p s he
  cases p with
  | nil =>
    intro hd
    exact hc ⟨List.head_eq_of_cons_eq he, hd⟩
  | cons d p =>
    rw [List.cons_append, List.cons.injEq] at he
    obtain ⟨rfl, rfl⟩ := he
    exact h p s rfl

theorem depthAfter_append (depth : Nat) (cs ds : List Char) :
    depthAfter depth (cs ++ ds) = depthAfter (depthAfter depth cs) ds := List.foldl_append

/-- Without an opening parenthesis there is nothing to close. -/
theorem depthAfter_zero_of_not_mem {cs : List Char} (h : '(' ∉ cs) : depthAfter 0 cs = 0 := by
  induction cs with
  | nil => rfl
  | cons c cs ih =>
    rw [List.mem_cons, not_or] at h
    have hstep : nextDepth 0 c = 0 := by simp [nextDepth, Ne.symm h.1]
    rw [depthAfter_cons, hstep, ih h.2]

theorem NoFreeComma.append {depth : Nat} {cs ds : List Char} (hc : NoFreeComma depth cs)
    (hd : NoFreeComma (depthAfter depth cs) ds) : NoFreeComma depth (cs ++ ds) := by
  induction cs generalizing depth with
  | nil => exact hd
  | cons c cs ih =>
    refine .cons ?_ (ih hc.tail hd)
    rintro ⟨rfl, hdepth⟩
    exact hc [] cs rfl hdepth

/-- Texts that stay parts of an argument list when they are joined by commas. -/
inductive Parted : Nat → List (List Char) → Prop
  | last {depth : Nat} {cs : List Char} : NoFreeComma depth cs → Parted depth [cs]
  | cons {depth : Nat} {cs next : List Char} {rest : List (List Char)} :
    NoFreeComma depth cs → depthAfter depth cs = 0 → Parted 0 (next :: rest) →
    Parted depth (cs :: next :: rest)

namespace Parted

variable {depth : Nat} {parts front back : List (List Char)} {part : List Char}

theorem ne_nil (h : Parted depth parts) : parts ≠ [] := by
  cases h <;> exact List.cons_ne_nil _ _

theorem consPiece {c : Char} (hc : ¬ (c = ',' ∧ depth = 0))
    (h : Parted (nextDepth depth c) parts) : Parted depth (consPiece c parts) := by
  cases h with
  | last hfree => exact .last (hfree.cons hc)
  | cons hfree hdepth hrest => exact .cons (hfree.cons hc) hdepth hrest

theorem cons_iff (hne : back ≠ []) :
    Parted depth (part :: back) ↔
      NoFreeComma depth part ∧ depthAfter depth part = 0 ∧ Parted 0 back := by
  constructor
  · intro h
    cases h with
    | last _ => exact absurd rfl hne
    | cons hfree hdepth hrest => exact ⟨hfree, hdepth, hrest⟩
  · obtain ⟨next, rest, rfl⟩ := List.exists_cons_of_ne_nil hne
    rintro ⟨hfree, hdepth, hrest⟩
    exact .cons hfree hdepth hrest

/-- A part can be exchanged for a text that leaves the depth at zero. -/
theorem exchange {other : List Char} (h : Parted 0 (front ++ part :: back))
    (hfree : NoFreeComma 0 other) (hdepth : depthAfter 0 other = 0) :
    Parted 0 (front ++ other :: back) := by
  induction front with
  | nil =>
    cases h with
    | last _ => exact .last hfree
    | cons _ _ hrest => exact .cons hfree hdepth hrest
  | cons first front ih =>
    rw [List.cons_append, cons_iff (by simp)] at h ⊢
    exact ⟨h.1, h.2.1, ih h.2.2⟩

theorem append_last {more : List Char} (h : Parted depth (front ++ [part])) (hmore : ',' ∉ more) :
    Parted depth (front ++ [part ++ more]) := by
  induction front generalizing depth with
  | nil =>
    cases h with
    | last hfree => exact .last (hfree.append (.of_not_mem hmore))
  | cons first front ih =>
    rw [List.cons_append, cons_iff (by simp)] at h ⊢
    exact ⟨h.1, h.2.1, ih h.2.2⟩

end Parted

section Splitting

variable {depth : Nat} {cs : List Char} {parts : List (List Char)}

theorem parted_splitArguments (depth : Nat) (cs : List Char) :
    Parted depth (splitArguments depth cs) := by
  induction cs generalizing depth with
  | nil => exact .last (.of_not_mem List.not_mem_nil)
  | cons c rest ih =>
    unfold splitArguments
    split
    · rename_i hc
      obtain ⟨next, parts, hparts⟩ := List.exists_cons_of_ne_nil (ih 0).ne_nil
      rw [hc.2, hparts]
      exact .cons (.of_not_mem List.not_mem_nil) rfl (hparts ▸ ih 0)
    · rename_i hc
      exact (ih _).consPiece hc

theorem intercalate_consPiece (c : Char) (h : parts ≠ []) :
    [','].intercalate (consPiece c parts) = c :: [','].intercalate parts := by
  obtain ⟨part, rest, rfl⟩ := List.exists_cons_of_ne_nil h
  cases rest with
  | nil => simp [consPiece]
  | cons next rest => simp [consPiece, List.intercalate_cons_cons]

/-- Splitting loses nothing. -/
theorem intercalate_splitArguments (depth : Nat) (cs : List Char) :
    [','].intercalate (splitArguments depth cs) = cs := by
  induction cs generalizing depth with
  | nil => rfl
  | cons c rest ih =>
    unfold splitArguments
    split
    · rename_i hc
      obtain ⟨next, parts, hparts⟩ :=
        List.exists_cons_of_ne_nil (parted_splitArguments depth rest).ne_nil
      have hrest := ih depth
      rw [hparts] at hrest ⊢
      rw [List.intercalate_cons_cons, hrest, hc.1]
      rfl
    · rw [intercalate_consPiece c (parted_splitArguments _ rest).ne_nil, ih]

theorem sublist_of_mem_splitArguments {part : List Char} (h : part ∈ splitArguments depth cs) :
    part.Sublist cs := by
  obtain ⟨front, back, hparts⟩ := List.append_of_mem h
  have hjoined := intercalate_splitArguments depth cs
  rw [hparts, intercalate_append_cons] at hjoined
  rw [← hjoined]
  exact (List.sublist_append_right _ part).trans (List.sublist_append_left _ _)

/-- Joined parts are split where they were joined. -/
theorem Parted.splitArguments_eq (h : Parted depth parts) :
    splitArguments depth ([','].intercalate parts) = parts := by
  induction h with
  | last hfree =>
    have hsplit := splitArguments_append hfree []
    rw [List.append_nil] at hsplit
    rw [List.intercalate_singleton, hsplit, splitArguments, foldr_consPiece, List.append_nil]
  | cons hfree hdepth _ ih =>
    rw [List.intercalate_cons_cons, List.append_assoc, splitArguments_append hfree, hdepth,
      List.singleton_append, splitArguments, if_pos ⟨rfl, rfl⟩, ih, foldr_consPiece,
      List.append_nil]

theorem splitArguments_eq_iff :
    splitArguments depth cs = parts ↔ Parted depth parts ∧ [','].intercalate parts = cs := by
  constructor
  · rintro rfl
    exact ⟨parted_splitArguments depth cs, intercalate_splitArguments depth cs⟩
  · rintro ⟨h, rfl⟩
    exact h.splitArguments_eq

/-- What follows the list without a comma belongs to its last part. -/
theorem exists_splitArguments_append (depth : Nat) (cs : List Char) :
    ∃ init last, splitArguments depth cs = init ++ [last] ∧
      ∀ more, ',' ∉ more → splitArguments depth (cs ++ more) = init ++ [last ++ more] := by
  obtain ⟨init, last, hsplit⟩ :=
    (List.eq_nil_or_concat' (splitArguments depth cs)).resolve_left
      (parted_splitArguments depth cs).ne_nil
  refine ⟨init, last, hsplit, ?_⟩
  intro more hmore
  obtain ⟨hparted, hjoined⟩ := splitArguments_eq_iff.mp hsplit
  refine splitArguments_eq_iff.mpr ⟨hparted.append_last hmore, ?_⟩
  rw [intercalate_concat_append, hjoined]

end Splitting

end Template
end ApiMapping
