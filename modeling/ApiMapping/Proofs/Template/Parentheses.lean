import ApiMapping.Template.Arguments
import Mathlib.Data.List.Infix

/-!
# Parentheses and commas in argument lists

The reader of an argument list keeps a depth that never falls below zero. In a balanced
text it is the number of parentheses opened less the number closed, so a list of balanced
texts whose commas all stand inside parentheses is cut exactly between its members.
-/

namespace ApiMapping
namespace Template

open Text

/-- The depth behind a text that starts at some depth. -/
def depthAfter (depth : Nat) (cs : List Char) : Nat := cs.foldl nextDepth depth

@[simp] theorem depthAfter_nil (depth : Nat) : depthAfter depth [] = depth := rfl

@[simp] theorem depthAfter_cons (depth : Nat) (c : Char) (cs : List Char) :
    depthAfter depth (c :: cs) = depthAfter (nextDepth depth c) cs := rfl

/-- No comma of the text stands at depth zero. -/
def NoFreeComma (depth : Nat) (cs : List Char) : Prop :=
  ∀ p s, cs = p ++ ',' :: s → depthAfter depth p ≠ 0

theorem NoFreeComma.tail {depth : Nat} {c : Char} {cs : List Char}
    (h : NoFreeComma depth (c :: cs)) : NoFreeComma (nextDepth depth c) cs := by
  intro p s he
  exact h (c :: p) s (by simp [he])

@[simp] theorem foldr_consPiece (cs p : List Char) (ps : List (List Char)) :
    cs.foldr consPiece (p :: ps) = (cs ++ p) :: ps := by
  induction cs with
  | nil => rfl
  | cons c cs ih => simp [ih, consPiece]

/-- A text without free commas goes into one piece, the first of the rest. -/
theorem splitArguments_append {depth : Nat} {cs : List Char} (h : NoFreeComma depth cs)
    (rest : List Char) :
    splitArguments depth (cs ++ rest) =
      cs.foldr consPiece (splitArguments (depthAfter depth cs) rest) := by
  induction cs generalizing depth with
  | nil => rfl
  | cons c cs ih =>
    have hc : ¬ (c = ',' ∧ depth = 0) := by
      rintro ⟨rfl, hd⟩
      exact h [] cs rfl (by simpa using hd)
    simp [splitArguments, hc, ih h.tail]

/-- No start of the text closes more parentheses than it opens, and the whole text closes
them all. -/
structure Balanced (cs : List Char) : Prop where
  start_le : ∀ p, p <+: cs → p.count ')' ≤ p.count '('
  closed : cs.count ')' = cs.count '('

/-- At every comma more parentheses have been opened than closed. -/
def CommasInside (cs : List Char) : Prop :=
  ∀ p, p ++ [','] <+: cs → p.count ')' < p.count '('

instance (cs : List Char) : Decidable (Balanced cs) :=
  decidable_of_iff ((∀ p ∈ cs.inits, p.count ')' ≤ p.count '(') ∧ cs.count ')' = cs.count '(')
    ⟨fun h => ⟨fun p hp => h.1 p ((List.mem_inits p cs).mpr hp), h.2⟩,
      fun h => ⟨fun p hp => h.start_le p ((List.mem_inits p cs).mp hp), h.closed⟩⟩

instance (cs : List Char) : Decidable (CommasInside cs) :=
  decidable_of_iff (∀ p ∈ cs.inits, p ++ [','] <+: cs → p.count ')' < p.count '(')
    ⟨fun h p hp => h p ((List.mem_inits p cs).mpr ((List.prefix_append p _).trans hp)) hp,
      fun h p _ => h p⟩

/-- A start of two texts ends in the first, or goes on with a start of the second. -/
theorem start_of_append {p cs ds : List Char} (h : p <+: cs ++ ds) :
    p <+: cs ∨ ∃ q, p = cs ++ q ∧ q <+: ds := by
  rcases List.prefix_or_prefix_of_prefix h (List.prefix_append cs ds) with hp | ⟨q, rfl⟩
  · exact Or.inl hp
  · exact Or.inr ⟨q, rfl, (List.prefix_append_right_inj cs).mp h⟩

/-- As long as no parenthesis lacks its partner, the depth is what the counts say. -/
theorem depthAfter_add_count (depth : Nat) (cs : List Char)
    (h : ∀ p, p <+: cs → p.count ')' ≤ depth + p.count '(') :
    depthAfter depth cs + cs.count ')' = depth + cs.count '(' := by
  induction cs generalizing depth with
  | nil => simp
  | cons c cs ih =>
    have hstep (p : List Char) (hp : p <+: cs) :
        (c :: p).count ')' ≤ depth + (c :: p).count '(' :=
      h (c :: p) (List.prefix_cons_inj c |>.mpr hp)
    by_cases ho : c = '('
    · subst ho
      have ih := ih (depth + 1) fun p hp => by
        have := hstep p hp
        simp at this
        omega
      simp [nextDepth] at ih ⊢
      omega
    · by_cases hc : c = ')'
      · subst hc
        have hpos := hstep [] List.nil_prefix
        have ih := ih (depth - 1) fun p hp => by
          have := hstep p hp
          simp at this hpos
          omega
        simp [nextDepth] at ih hpos ⊢
        omega
      · have ih := ih depth fun p hp => by simpa [ho, hc] using hstep p hp
        simpa [nextDepth, ho, hc] using ih

namespace Balanced

variable {p cs ds : List Char}

/-- In a balanced text the depth of every place is what the counts say. -/
theorem depthAfter_start (h : Balanced cs) (depth : Nat) (hp : p <+: cs) :
    depthAfter depth p + p.count ')' = depth + p.count '(' :=
  depthAfter_add_count depth p fun q hq => Nat.le_add_left_of_le (h.start_le q (hq.trans hp))

theorem depthAfter_eq (h : Balanced cs) (depth : Nat) : depthAfter depth cs = depth := by
  have hd := h.depthAfter_start depth List.prefix_rfl
  have := h.closed
  omega

theorem nil : Balanced [] := ⟨by simp, rfl⟩

theorem of_not_mem (ho : '(' ∉ cs) (hc : ')' ∉ cs) : Balanced cs where
  start_le p hp := by simp [List.count_eq_zero_of_not_mem fun h => hc (hp.subset h)]
  closed := by rw [List.count_eq_zero_of_not_mem ho, List.count_eq_zero_of_not_mem hc]

theorem append (hc : Balanced cs) (hd : Balanced ds) : Balanced (cs ++ ds) where
  start_le p hp := by
    rcases start_of_append hp with hp | ⟨q, rfl, hq⟩
    · exact hc.start_le p hp
    · have h₁ := hc.closed
      have h₂ := hd.start_le q hq
      simp only [List.count_append]
      omega
  closed := by
    rw [List.count_append, List.count_append, hc.closed, hd.closed]

theorem enclose (h : Balanced cs) : Balanced ('(' :: cs ++ [')']) where
  start_le p hp := by
    rcases List.prefix_cons_iff.mp (List.cons_append ▸ hp) with rfl | ⟨q, rfl, hq⟩
    · simp
    · have hle : q.count ')' ≤ q.count '(' + 1 := by
        rcases List.prefix_concat_iff.mp hq with rfl | hq
        · simp [h.closed]
        · exact Nat.le_succ_of_le (h.start_le q hq)
      simpa using hle
  closed := by simp [h.closed]

/-- A comma inside added parentheses is inside parentheses. -/
theorem commasInside_enclose (h : Balanced cs) : CommasInside ('(' :: cs ++ [')']) := by
  intro p hp
  rcases List.prefix_cons_iff.mp (List.cons_append ▸ hp) with hnil | ⟨q, he, hq⟩
  · simp at hnil
  · cases p with
    | nil => simp at he
    | cons c p =>
      simp only [List.cons_append, List.cons.injEq] at he
      obtain ⟨rfl, rfl⟩ := he
      have hp : p <+: cs := by
        rcases List.prefix_concat_iff.mp hq with he | hq
        · simp at he
        · exact (List.prefix_append p [',']).trans hq
      have := h.start_le p hp
      simp
      omega

/-- What follows a balanced text is at the depth that it would have alone. -/
theorem commasInside_append (hb : Balanced cs) (hc : CommasInside cs) (hd : CommasInside ds) :
    CommasInside (cs ++ ds) := by
  intro p hp
  rcases start_of_append hp with hp | ⟨q, he, hq⟩
  · exact hc p hp
  · rcases List.eq_nil_or_concat q with rfl | ⟨r, c, rfl⟩
    · exact hc p (by simp [he])
    · rw [List.concat_eq_append, ← List.append_assoc] at he
      obtain ⟨rfl, hcr⟩ := List.append_inj' he rfl
      rw [List.concat_eq_append, ← hcr] at hq
      have := hd r hq
      have := hb.closed
      simp only [List.count_append]
      omega

theorem noFreeComma (hb : Balanced cs) (hc : CommasInside cs) : NoFreeComma 0 cs := by
  rintro p s rfl
  have hpre : p ++ [','] <+: p ++ ',' :: s := ⟨s, by simp⟩
  have hlt := hc p hpre
  have hd := hb.depthAfter_start 0 ((List.prefix_append p [',']).trans hpre)
  omega

end Balanced

theorem CommasInside.of_not_mem {cs : List Char} (h : ',' ∉ cs) : CommasInside cs := by
  intro p hp
  exact absurd (hp.subset (by simp)) h

/-- A balanced text without free commas is one piece, and the rest is split on its own. -/
theorem splitArguments_append_comma {cs : List Char} (hb : Balanced cs) (hc : CommasInside cs)
    (rest : List Char) : splitArguments 0 (cs ++ ',' :: rest) = cs :: splitArguments 0 rest := by
  rw [splitArguments_append (hb.noFreeComma hc), hb.depthAfter_eq]
  simp [splitArguments]

theorem splitArguments_eq_singleton {cs : List Char} (hb : Balanced cs) (hc : CommasInside cs) :
    splitArguments 0 cs = [cs] := by
  have h := splitArguments_append (hb.noFreeComma hc) []
  rw [List.append_nil, hb.depthAfter_eq] at h
  simpa [splitArguments] using h

end Template
end ApiMapping
