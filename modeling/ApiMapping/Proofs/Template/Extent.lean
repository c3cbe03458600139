import ApiMapping.Proofs.Template.Calls

/-!
# The extent of what is read

Reading a call reads its arguments, each of which is a shorter text with fewer parentheses, so that
arguments within arguments come to an end. An expression has no more arguments, at all levels
together, than its text has opening parentheses and commas: the first argument of a call is charged
to its parenthesis and every other one to the comma before it. Its calls are nested no deeper than
there are opening parentheses.
-/

namespace ApiMapping
namespace Template
namespace Expression

open Text

/-! ## Sizes of expressions -/

mutual

/-- The number of arguments, at all levels. -/
def argumentCount : Expression → Nat
  | .read _ _ => 0
  | .call _ arguments => argumentListCount arguments

/-- An argument, and those within it. -/
def argumentCountFrom : Argument → Nat
  | .literal _ => 1
  | .nested e => e.argumentCount + 1
  | .malformed _ _ => 1

def argumentListCount : List Argument → Nat
  | [] => 0
  | a :: rest => argumentCountFrom a + argumentListCount rest

end

mutual

/-- The number of calls of which each is an argument of the one before it. -/
def callDepth : Expression → Nat
  | .read _ _ => 0
  | .call _ arguments => argumentListDepth arguments + 1

def argumentDepth : Argument → Nat
  | .literal _ => 0
  | .nested e => e.callDepth
  | .malformed _ _ => 0

def argumentListDepth : List Argument → Nat
  | [] => 0
  | a :: rest => max (argumentDepth a) (argumentListDepth rest)

end

theorem argumentListDepth_le_iff {arguments : List Argument} {n : Nat} :
    argumentListDepth arguments ≤ n ↔ ∀ a ∈ arguments, argumentDepth a ≤ n := by
  induction arguments with
  | nil => simp [argumentListDepth]
  | cons a rest ih => rw [argumentListDepth, Nat.max_le, ih, List.forall_mem_cons]

/-! ## Texts of arguments -/

/-- The first text is read as an argument of the call that the second one spells. -/
inductive ArgumentIn : List Char → List Char → Prop
  | part {before inner closing part : List Char} : NamesCallee before → Closes inner closing →
    inner.all isBlank = false → part ∈ splitArguments 0 inner →
    ArgumentIn (trim part) (callChars before inner closing)

section Texts

variable {a cs before inner closing part : List Char}

/-- What stands behind the name of a call. -/
theorem sublist_callChars (before inner closing : List Char) :
    ('(' :: inner).Sublist (callChars before inner closing) := by
  have hinner : ('(' :: inner).Sublist ('(' :: (inner ++ closing)) :=
    (List.sublist_append_left inner closing).cons_cons '('
  have hbefore := hinner.trans (List.sublist_append_right before _)
  exact (hbefore.cons '|').trans (List.sublist_append_right callTag.toList _)

theorem count_inner_lt (before inner closing : List Char) :
    inner.count '(' < (callChars before inner closing).count '(' := by
  have hcount := (sublist_callChars before inner closing).count_le '('
  rwa [List.count_cons_self] at hcount

theorem trim_sublist_of_mem (h : part ∈ splitArguments 0 inner) : (trim part).Sublist inner :=
  (trim_sublist part).trans (sublist_of_mem_splitArguments h)

/-- The text of an argument stands behind a parenthesis of its call. -/
theorem cons_trim_sublist (h : part ∈ splitArguments 0 inner) :
    ('(' :: trim part).Sublist (callChars before inner closing) :=
  ((trim_sublist_of_mem h).cons_cons '(').trans (sublist_callChars before inner closing)

theorem ArgumentIn.cons_sublist (h : ArgumentIn a cs) : ('(' :: a).Sublist cs := by
  cases h with
  | part _ _ _ hpart => exact cons_trim_sublist hpart

theorem ArgumentIn.length_lt (h : ArgumentIn a cs) : a.length < cs.length := by
  have hlength := h.cons_sublist.length_le
  rwa [List.length_cons] at hlength

theorem ArgumentIn.count_lt (h : ArgumentIn a cs) : a.count '(' < cs.count '(' := by
  have hcount := h.cons_sublist.count_le '('
  rwa [List.count_cons_self] at hcount

theorem wellFounded_argumentIn : WellFounded ArgumentIn :=
  Subrelation.wf ArgumentIn.length_lt (measure List.length).wf

/-- Arguments within arguments take up a parenthesis each. -/
theorem length_le_of_isChain {texts : List (List Char)}
    (h : List.IsChain (fun outer inner => ArgumentIn inner outer) (cs :: texts)) :
    texts.length ≤ cs.count '(' := by
  induction texts generalizing cs with
  | nil => exact Nat.zero_le _
  | cons a texts ih =>
    rw [List.isChain_cons_cons] at h
    have hlt := h.1.count_lt
    have hle := ih h.2
    rw [List.length_cons]
    omega

/-- A call has one argument for each text that stands in it as an argument. -/
theorem exists_argumentTexts {name : String} {arguments : List Argument}
    (h : parseChars cs = .ok (.call name arguments)) :
    ∃ texts : List (List Char), (∀ a ∈ texts, ArgumentIn a cs) ∧
      arguments = texts.map fun a => argumentOf (parseChars a) a := by
  cases parseChars_eq_iff.mp h with
  | @call before inner closing hname hclose =>
    cases hblank : inner.all isBlank with
    | true => exact ⟨[], by simp, by simp [argumentsOf, hblank]⟩
    | false =>
      refine ⟨(splitArguments 0 inner).map trim, ?_, ?_⟩
      · intro a ha
        obtain ⟨part, hpart, rfl⟩ := List.mem_map.mp ha
        exact .part hname hclose hblank hpart
      · rw [argumentsOf, hblank, if_neg Bool.false_ne_true, List.map_map]
        rfl

end Texts

/-! ## Counting along the parser -/

section Counting

variable {cs inner : List Char} {e : Expression} {parts : List (List Char)}

theorem parseChars_of_argumentOf {raw : List Char} {parsed : Except ExpressionError Expression}
    (h : argumentOf parsed raw = .nested e) : parsed = .ok e := by
  unfold argumentOf at h
  split at h
  · cases h
  · cases parsed with
    | error error => cases h
    | ok e' => cases h; rfl

/-- To show something of all that is read, show it of simple expressions, and of a call if it holds
of those of its arguments that are expressions. -/
theorem parseChars_induction {motive : List Char → Expression → Prop}
    (read : ∀ (source : Source) (locator : List Char),
      motive (source.tag.toList ++ '|' :: locator) (.read source (String.ofList locator)))
    (call : ∀ {before inner closing : List Char}, NamesCallee before → Closes inner closing →
      (∀ part ∈ splitArguments 0 inner, ∀ e, argumentOfPiece part = .nested e →
        motive (trim part) e) →
      motive (callChars before inner closing)
        (.call (String.ofList (calleeName before)) (argumentsOf inner)))
    (h : parseChars cs = .ok e) : motive cs e := by
  induction hlength : cs.length using Nat.strong_induction_on generalizing cs e with
  | h n ih =>
    subst hlength
    cases parseChars_eq_iff.mp h with
    | source source locator => exact read source locator
    | @call before inner closing hname hclose =>
      apply call hname hclose
      intro part hpart e he
      apply ih (trim part).length ?_ (parseChars_of_argumentOf he) rfl
      have hle := (@cons_trim_sublist before inner closing part hpart).length_le
      rwa [List.length_cons] at hle

/-- The parts of a list are charged to its parentheses and commas, and one to none of them. -/
theorem argumentListCount_map_le (hne : parts ≠ [])
    (h : ∀ part ∈ parts, argumentCountFrom (argumentOfPiece part) ≤
      part.count '(' + part.count ',' + 1) :
    argumentListCount (parts.map argumentOfPiece) ≤
      ([','].intercalate parts).count '(' + ([','].intercalate parts).count ',' + 1 := by
  induction parts with
  | nil => exact absurd rfl hne
  | cons first parts ih =>
    rw [List.forall_mem_cons] at h
    cases parts with
    | nil => simpa [argumentListCount] using h.1
    | cons next rest =>
      have hfirst := h.1
      have hrest := ih (List.cons_ne_nil next rest) h.2
      rw [List.intercalate_cons_cons]
      simp only [List.count_append, List.count_singleton, List.map_cons, argumentListCount]
        at hrest ⊢
      simp
      omega

theorem argumentListCount_argumentsOf_le
    (h : ∀ part ∈ splitArguments 0 inner, ∀ e, argumentOfPiece part = .nested e →
      e.argumentCount ≤ (trim part).count '(' + (trim part).count ',') :
    argumentListCount (argumentsOf inner) ≤ inner.count '(' + inner.count ',' + 1 := by
  unfold argumentsOf
  split
  · exact Nat.zero_le _
  · have hparts := argumentListCount_map_le (parted_splitArguments 0 inner).ne_nil fun part hpart => by
      cases hargument : argumentOfPiece part with
      | literal _ => exact Nat.le_add_left 1 _
      | malformed _ _ => exact Nat.le_add_left 1 _
      | nested e =>
        have hopen := (trim_sublist part).count_le '('
        have hcomma := (trim_sublist part).count_le ','
        have hnested := h part hpart e hargument
        rw [argumentCountFrom]
        omega
    rwa [intercalate_splitArguments] at hparts

/-- Every argument has a parenthesis or a comma of its own. -/
theorem argumentCount_le (h : parseChars cs = .ok e) :
    e.argumentCount ≤ cs.count '(' + cs.count ',' := by
  refine parseChars_induction
    (motive := fun cs e => e.argumentCount ≤ cs.count '(' + cs.count ',') ?_ ?_ h
  · intro source locator
    exact Nat.zero_le _
  · intro before inner closing _ _ ih
    have hlist := argumentListCount_argumentsOf_le ih
    have hopen := count_inner_lt before inner closing
    have hcomma := (sublist_callChars before inner closing).count_le ','
    rw [List.count_cons_of_ne (by decide)] at hcomma
    rw [argumentCount]
    omega

theorem exists_part_of_mem_argumentsOf {a : Argument} (h : a ∈ argumentsOf inner) :
    ∃ part ∈ splitArguments 0 inner, argumentOfPiece part = a := by
  unfold argumentsOf at h
  split at h
  · cases h
  · exact List.mem_map.mp h

/-- Every call has a parenthesis of its own, and those within it stand behind that. -/
theorem callDepth_le (h : parseChars cs = .ok e) : e.callDepth ≤ cs.count '(' := by
  refine parseChars_induction (motive := fun cs e => e.callDepth ≤ cs.count '(') ?_ ?_ h
  · intro source locator
    exact Nat.zero_le _
  · intro before inner closing _ _ ih
    have hlist : argumentListDepth (argumentsOf inner) ≤ inner.count '(' := by
      rw [argumentListDepth_le_iff]
      intro a ha
      obtain ⟨part, hpart, rfl⟩ := exists_part_of_mem_argumentsOf ha
      cases hargument : argumentOfPiece part with
      | literal _ => exact Nat.zero_le _
      | malformed _ _ => exact Nat.zero_le _
      | nested e =>
        exact (ih part hpart e hargument).trans ((trim_sublist_of_mem hpart).count_le '(')
    have hopen := count_inner_lt before inner closing
    rw [callDepth]
    omega

end Counting

/-- How far reading a text goes, and how large its result is. -/
structure LinearExtent (s : String) : Prop where
  /-- The arguments of a call are those that its shorter texts are read as. -/
  arguments_eq : ∀ name arguments, parse s = .ok (.call name arguments) →
    ∃ texts : List (List Char), (∀ a ∈ texts, ArgumentIn a s.toList) ∧
      arguments = texts.map fun a => argumentOf (parseChars a) a
  length_lt : ∀ a, ArgumentIn a s.toList → a.length < s.toList.length
  /-- There is no endless descent into arguments. -/
  accessible : Acc ArgumentIn s.toList
  descent_le : ∀ texts,
    List.IsChain (fun outer inner => ArgumentIn inner outer) (s.toList :: texts) →
    texts.length ≤ s.toList.count '('
  argumentCount_le : ∀ e, parse s = .ok e →
    e.argumentCount ≤ s.toList.count '(' + s.toList.count ','
  callDepth_le : ∀ e, parse s = .ok e → e.callDepth ≤ s.toList.count '('

/-- Reading ends for every text, with a result that is linear in its parentheses and commas. -/
theorem linearExtent (s : String) : LinearExtent s where
  arguments_eq _ _ h := exists_argumentTexts h
  length_lt _ h := h.length_lt
  accessible := wellFounded_argumentIn.apply s.toList
  descent_le _ h := length_le_of_isChain h
  argumentCount_le _ h := Expression.argumentCount_le h
  callDepth_le _ h := Expression.callDepth_le h

end Expression
end Template
end ApiMapping
