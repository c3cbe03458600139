import ApiMapping.Text.Basic

/-!
# The parts of a call

A call is written `name(argument, argument, …)`. Only commas outside all inner
parentheses part the arguments, so an argument may be a call itself. A closing
parenthesis without a partner is ignored.
-/

namespace ApiMapping
namespace Template

/-- The number of open parentheses behind a character. -/
def nextDepth (depth : Nat) (c : Char) : Nat :=
  if c = '(' then depth + 1 else if c = ')' then depth - 1 else depth

/-- The pieces between the commas at depth zero. -/
def splitArguments (depth : Nat) : List Char → List (List Char)
  | [] => [[]]
  | c :: rest =>
    if c = ',' ∧ depth = 0 then [] :: splitArguments depth rest
    else Text.consPiece c (splitArguments (nextDepth depth c) rest)

/-- What may follow the name of a plugin without being part of it. -/
def methodSuffix : List Char := ".Execute".toList

/-- The name before the parenthesis, without blanks and without the method. -/
def calleeName (before : List Char) : List Char :=
  let name := Text.trim before
  (Text.beforeEnd? methodSuffix name).getD name

/-- The arguments behind the parenthesis, without blanks around them. -/
def argumentTexts (after : List Char) : List (List Char) :=
  let inner := (Text.beforeEnd? [')'] after).getD after
  if inner.all Text.isBlank then [] else (splitArguments 0 inner).map Text.trim

/-- The name and the arguments of a call; `none` if it has no name. -/
def callParts? (locator : List Char) : Option (List Char × List (List Char)) :=
  match Text.cut? '(' locator with
  | none => none
  | some (before, after) =>
    let name := calleeName before
    if name.isEmpty then none else some (name, argumentTexts after)

theorem length_trim_le (cs : List Char) : (Text.trim cs).length ≤ cs.length := by
  have h₁ : (Text.trimLeft cs).length ≤ cs.length := (List.dropWhile_sublist _).length_le
  have h₂ (ds : List Char) : (Text.trimRight ds).length ≤ ds.length := by
    unfold Text.trimRight
    have := (List.dropWhile_sublist Text.isBlank (l := ds.reverse)).length_le
    simpa using this
  exact Nat.le_trans (h₂ _) h₁

theorem length_afterStart?_le {start cs rest : List Char}
    (h : Text.afterStart? start cs = some rest) : rest.length ≤ cs.length := by
  induction start generalizing cs with
  | nil =>
    simp only [Text.afterStart?, Option.some.injEq] at h
    simp [h]
  | cons s start ih =>
    cases cs with
    | nil => simp [Text.afterStart?] at h
    | cons c cs =>
      unfold Text.afterStart? at h
      split at h
      · exact Nat.le_succ_of_le (ih h)
      · simp at h

theorem length_beforeEnd?_getD_le (tail cs : List Char) :
    ((Text.beforeEnd? tail cs).getD cs).length ≤ cs.length := by
  unfold Text.beforeEnd?
  cases h : Text.afterStart? tail.reverse cs.reverse with
  | none => simp
  | some rest => simpa using length_afterStart?_le h

theorem length_le_of_mem_consPiece {c : Char} {ps : List (List Char)} {p : List Char}
    (h : p ∈ Text.consPiece c ps) {n : Nat} (hn : ∀ q ∈ ps, q.length ≤ n) :
    p.length ≤ n + 1 := by
  cases ps with
  | nil =>
    simp only [Text.consPiece, List.mem_singleton] at h
    simp [h]
  | cons q qs =>
    simp only [Text.consPiece, List.mem_cons] at h
    rcases h with rfl | h
    · simpa using hn q (by simp)
    · exact Nat.le_succ_of_le (hn p (by simp [h]))

theorem length_le_of_mem_splitArguments {cs p : List Char} {depth : Nat}
    (h : p ∈ splitArguments depth cs) : p.length ≤ cs.length := by
  induction cs generalizing depth p with
  | nil =>
    simp only [splitArguments, List.mem_singleton] at h
    simp [h]
  | cons c rest ih =>
    unfold splitArguments at h
    split at h
    · rcases List.mem_cons.1 h with rfl | h
      · simp
      · exact Nat.le_succ_of_le (ih h)
    · exact length_le_of_mem_consPiece h fun q hq => ih hq

theorem length_le_of_mem_argumentTexts {after p : List Char} (h : p ∈ argumentTexts after) :
    p.length ≤ after.length := by
  unfold argumentTexts at h
  dsimp only at h
  split at h
  · simp at h
  · obtain ⟨q, hq, rfl⟩ := List.mem_map.1 h
    exact Nat.le_trans (length_trim_le q)
      (Nat.le_trans (length_le_of_mem_splitArguments hq) (length_beforeEnd?_getD_le _ _))

/-- Every argument is shorter than the call. -/
theorem length_lt_of_callParts? {locator name : List Char} {args : List (List Char)}
    (h : callParts? locator = some (name, args)) {a : List Char} (ha : a ∈ args) :
    a.length < locator.length := by
  unfold callParts? at h
  split at h
  · simp at h
  · rename_i before after hcut
    dsimp only at h
    split at h
    · simp at h
    · simp only [Option.some.injEq, Prod.mk.injEq] at h
      obtain ⟨_, rfl⟩ := h
      have hlen := length_le_of_mem_argumentTexts ha
      rw [(Text.cut?_eq_some hcut).1]
      simp only [List.length_append, List.length_cons]
      omega

end Template
end ApiMapping
