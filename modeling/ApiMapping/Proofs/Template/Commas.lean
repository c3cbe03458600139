import ApiMapping.Proofs.Template.Parting
import Mathlib.Data.List.Induction

/-!
# Cutting at commas outside parentheses

An argument list is cut at its free commas, those at depth zero, and at no other place. The depth
of a place is the number of parentheses that stand open there, and it is zero at every cut, so that
each part has the depths that it would have alone. In a balanced list the parts are the only
balanced texts without free commas that are joined to it.
-/

namespace ApiMapping
namespace Template

open Text

/-! ## Depth -/

/-- Some end of the text opens so many more parentheses than it closes, and none opens more. -/
structure LeavesOpen (cs : List Char) (depth : Nat) : Prop where
  attained : ∃ s, s <:+ cs ∧ s.count '(' = s.count ')' + depth
  bound : ∀ s, s <:+ cs → s.count '(' ≤ s.count ')' + depth

section Depth

variable {cs : List Char} {depth : Nat}

/-- A closing parenthesis without a partner leaves nothing open. -/
theorem LeavesOpen.concat (h : LeavesOpen cs depth) (c : Char) :
    LeavesOpen (cs ++ [c]) (nextDepth depth c) where
  attained := by
    obtain ⟨s, hs, hcount⟩ := h.attained
    by_cases hlone : c = ')' ∧ depth = 0
    · refine ⟨[], List.nil_suffix, ?_⟩
      simp [nextDepth, hlone]
    · refine ⟨s ++ [c], List.suffix_concat_iff.mpr (.inr ⟨s, rfl, hs⟩), ?_⟩
      simp only [List.count_append, List.count_singleton, beq_iff_eq, nextDepth]
      grind
  bound s hs := by
    rcases List.suffix_concat_iff.mp hs with rfl | ⟨t, rfl, ht⟩
    · simp
    · have hbound := h.bound t ht
      simp only [List.count_append, List.count_singleton, beq_iff_eq, nextDepth]
      grind

/-- The depth is the number of parentheses that stand open. -/
theorem leavesOpen_depthAfter (cs : List Char) : LeavesOpen cs (depthAfter 0 cs) := by
  induction cs using List.reverseRecOn with
  | nil => exact ⟨⟨[], List.suffix_rfl, rfl⟩, by simp⟩
  | append_singleton cs c ih =>
    rw [depthAfter_append, depthAfter_cons, depthAfter_nil]
    exact ih.concat c

end Depth

/-! ## Free commas -/

/-- The places of the commas at depth zero, in a text that starts at some depth. -/
def freeCommas (depth : Nat) (cs : List Char) : List Nat :=
  (List.range cs.length).filter fun i => cs[i]? = some ',' ∧ depthAfter depth (cs.take i) = 0

theorem freeCommas_cons (depth : Nat) (c : Char) (cs : List Char) :
    freeCommas depth (c :: cs) =
      (if c = ',' ∧ depth = 0 then [0] else []) ++
        (freeCommas (nextDepth depth c) cs).map Nat.succ := by
  have hrest : (List.range cs.length).filter
        ((fun i => decide ((c :: cs)[i]? = some ',' ∧
          depthAfter depth ((c :: cs).take i) = 0)) ∘ Nat.succ) =
      freeCommas (nextDepth depth c) cs := by
    apply List.filter_congr
    intro i _
    rw [Function.comp_apply, decide_eq_decide]
    simp
  rw [← hrest, freeCommas, List.length_cons, List.range_succ_eq_map, List.filter_cons,
    List.filter_map]
  simp only [List.getElem?_cons_zero, List.take_zero, depthAfter_nil, Option.some.injEq,
    decide_eq_true_eq]
  split <;> rfl

/-- There is one part more than there are free commas. -/
theorem length_splitArguments (depth : Nat) (cs : List Char) :
    (splitArguments depth cs).length = (freeCommas depth cs).length + 1 := by
  induction cs generalizing depth with
  | nil => rfl
  | cons c rest ih =>
    rw [freeCommas_cons, splitArguments]
    split
    · rename_i hc
      obtain ⟨rfl, rfl⟩ := hc
      have hdepth : nextDepth 0 ',' = 0 := rfl
      rw [List.length_cons, ih, hdepth, List.length_append, List.length_map, List.length_singleton,
        Nat.add_comm 1]
    · rw [length_consPiece c (parted_splitArguments _ rest).ne_nil, ih, List.nil_append,
        List.length_map]

/-! ## Parts -/

section Parts

variable {depth : Nat} {cs ds part : List Char} {parts front back : List (List Char)}

/-- The depth is zero at every cut. -/
theorem Parted.depthAfter_front (h : Parted 0 (front ++ part :: back)) :
    depthAfter 0 (front.flatMap (· ++ [','])) = 0 := by
  induction front with
  | nil => rfl
  | cons first front ih =>
    rw [List.cons_append, cons_iff (by simp)] at h
    rw [List.flatMap_cons, depthAfter_append, depthAfter_append, h.2.1]
    exact ih h.2.2

theorem Parted.noFreeComma (h : Parted 0 parts) : ∀ part ∈ parts, NoFreeComma 0 part := by
  induction parts with
  | nil => simp
  | cons first parts ih =>
    intro part hpart
    cases h with
    | last hfree => rwa [List.mem_singleton.mp hpart]
    | cons hfree _ hrest =>
      rcases List.mem_cons.mp hpart with rfl | hpart
      · exact hfree
      · exact ih hrest part hpart

theorem Balanced.of_append (h : Balanced (cs ++ ds)) (hdepth : depthAfter 0 cs = 0) :
    Balanced cs ∧ Balanced ds := by
  have hcount := h.depthAfter_start 0 (List.prefix_append cs ds)
  have hclosed := h.closed
  rw [List.count_append, List.count_append] at hclosed
  refine ⟨⟨fun p hp => h.start_le p (hp.trans (List.prefix_append cs ds)), by omega⟩,
    fun p hp => ?_, by omega⟩
  have hle := h.start_le (cs ++ p) ((List.prefix_append_right_inj cs).mpr hp)
  rw [List.count_append, List.count_append] at hle
  omega

theorem Balanced.of_comma_cons (h : Balanced (',' :: ds)) : Balanced ds :=
  (@of_append [','] ds h rfl).2

theorem Balanced.noFreeComma_iff (h : Balanced cs) : NoFreeComma 0 cs ↔ CommasInside cs := by
  constructor
  · intro hfree p hp
    have hcount := h.depthAfter_start 0 ((List.prefix_append p [',']).trans hp)
    obtain ⟨s, rfl⟩ := hp
    have hne := hfree p s (by simp)
    omega
  · exact h.noFreeComma

/-- The parts of a balanced list are balanced. -/
theorem Parted.balanced (h : Parted 0 parts) (hb : Balanced ([','].intercalate parts)) :
    ∀ part ∈ parts, Balanced part := by
  induction parts with
  | nil => simp
  | cons first parts ih =>
    cases parts with
    | nil => simpa using hb
    | cons next rest =>
      rw [cons_iff (by simp)] at h
      rw [List.intercalate_cons_cons, List.append_assoc] at hb
      obtain ⟨hfirst, hrest⟩ := hb.of_append h.2.1
      intro part hpart
      rcases List.mem_cons.mp hpart with rfl | hpart
      · exact hfirst
      · exact ih h.2.2 hrest.of_comma_cons part hpart

/-- Balanced texts without free commas are the parts of what they are joined to. -/
theorem parted_of_balanced (hne : parts ≠ [])
    (h : ∀ part ∈ parts, Balanced part ∧ CommasInside part) : Parted 0 parts := by
  induction parts with
  | nil => exact absurd rfl hne
  | cons first parts ih =>
    obtain ⟨hb, hinside⟩ := h first List.mem_cons_self
    have hfree := hb.noFreeComma hinside
    by_cases hparts : parts = []
    · subst hparts
      exact .last hfree
    · rw [Parted.cons_iff hparts]
      refine ⟨hfree, hb.depthAfter_eq 0, ih hparts fun part hpart => ?_⟩
      exact h part (List.mem_cons_of_mem first hpart)

end Parts

/-- How a text is cut into parts. -/
structure CutAtCommas (cs : List Char) (parts : List (List Char)) : Prop where
  joined : [','].intercalate parts = cs
  length_eq : parts.length = (freeCommas 0 cs).length + 1
  no_free_comma : ∀ part ∈ parts, NoFreeComma 0 part
  /-- A place inside a part has the depth that it has in the part alone. -/
  depth_eq : ∀ front part back start, parts = front ++ part :: back → start <+: part →
    depthAfter 0 (front.flatMap (· ++ [',']) ++ start) = depthAfter 0 start
  depth_open : ∀ start, start <+: cs → LeavesOpen start (depthAfter 0 start)
  /-- A balanced text has no other parts that are balanced and have no free commas. -/
  unique : Balanced cs → ∀ others, (others ≠ [] ∧ [','].intercalate others = cs ∧
    ∀ other ∈ others, Balanced other ∧ CommasInside other) ↔ others = parts

theorem eq_splitArguments_iff_of_balanced {cs : List Char} (hb : Balanced cs)
    {others : List (List Char)} :
    (others ≠ [] ∧ [','].intercalate others = cs ∧
      ∀ other ∈ others, Balanced other ∧ CommasInside other) ↔ others = splitArguments 0 cs := by
  constructor
  · rintro ⟨hne, hjoined, hothers⟩
    exact (splitArguments_eq_iff.mpr ⟨parted_of_balanced hne hothers, hjoined⟩).symm
  · rintro rfl
    obtain ⟨hparted, hjoined⟩ := splitArguments_eq_iff.mp (Eq.refl (splitArguments 0 cs))
    refine ⟨hparted.ne_nil, hjoined, fun part hpart => ?_⟩
    have hbalanced := hparted.balanced (by rwa [hjoined]) part hpart
    exact ⟨hbalanced, hbalanced.noFreeComma_iff.mp (hparted.noFreeComma part hpart)⟩

/-- An argument list is cut exactly at its free commas, and nothing of it is lost. -/
theorem cutAtCommas_splitArguments (cs : List Char) : CutAtCommas cs (splitArguments 0 cs) where
  joined := intercalate_splitArguments 0 cs
  length_eq := length_splitArguments 0 cs
  no_free_comma := (parted_splitArguments 0 cs).noFreeComma
  depth_eq front part back start hparts _ := by
    have hparted := parted_splitArguments 0 cs
    rw [hparts] at hparted
    rw [depthAfter_append, hparted.depthAfter_front]
  depth_open start _ := leavesOpen_depthAfter start
  unique hb _ := eq_splitArguments_iff_of_balanced hb

example : splitArguments 0 "a),f(b,c".toList = ["a)".toList, "f(b,c".toList] := by decide

end Template
end ApiMapping
