import ApiMapping.Proofs.Template.Calls

/-!
# White space behind a call

The parenthesis of a call is taken off only where it is the last character of the text. White
space behind it makes it a part of the last argument, so that the call is another one unless
that argument is a call itself which lacked a parenthesis. As an argument a call is trimmed
first, and white space behind it does not count.
-/

namespace ApiMapping
namespace Template
namespace Expression

open Text

/-! ## Lists with more behind them -/

section Lists

variable {inner piece after : List Char}

theorem argumentOfPiece_congr {other : List Char} (h : trim piece = trim other) :
    argumentOfPiece piece = argumentOfPiece other := by
  rw [argumentOfPiece, argumentOfPiece, h]

theorem trim_append_blank (h : after.all isBlank = true) : trim (piece ++ after) = trim piece :=
  @trim_pad [] piece after rfl h

theorem comma_not_mem_of_blank (h : after.all isBlank = true) : ',' ∉ after :=
  not_mem_of_all_blank h (by decide)

theorem argumentsOf_append_blank (h : after.all isBlank = true) :
    argumentsOf (inner ++ after) = argumentsOf inner := by
  obtain ⟨init, last, hsplit, hmore⟩ := exists_splitArguments_append 0 inner
  rw [argumentsOf, argumentsOf, hsplit, hmore after (comma_not_mem_of_blank h), List.map_append,
    List.map_append, List.map_singleton, List.map_singleton,
    argumentOfPiece_congr (trim_append_blank h), List.all_append, h, Bool.and_true]

/-- A parenthesis behind a list belongs to the last of its parts. -/
theorem argumentsOf_concat_paren {init : List (List Char)} {last : List Char}
    (h : splitArguments 0 inner = init ++ [last]) :
    argumentsOf (inner ++ [')']) = (init ++ [last ++ [')']]).map argumentOfPiece := by
  obtain ⟨init', last', hsplit, hmore⟩ := exists_splitArguments_append 0 inner
  rw [hsplit] at h
  obtain ⟨rfl, hlast⟩ := List.append_inj' h rfl
  rw [List.cons.injEq] at hlast
  have hparen : isBlank ')' = false := by decide
  rw [argumentsOf, hmore _ (by decide), if_neg (by simp [hparen]), hlast.1]

theorem argumentsOf_paren_blank (h : after.all isBlank = true) :
    argumentsOf (inner ++ ')' :: after) = argumentsOf (inner ++ [')']) := by
  rw [← @argumentsOf_append_blank (inner ++ [')']) after h, List.append_assoc]
  rfl

end Lists

/-! ## The last argument -/

/-- What is no expression is kept as its text. -/
theorem argumentOf_cases (parsed : Except ExpressionError Expression) (raw : List Char) :
    (∃ e, parsed = .ok e ∧ argumentOf parsed raw = .nested e) ∨
      argumentOf parsed raw = .literal (String.ofList raw) ∨
      ∃ error, argumentOf parsed raw = .malformed (String.ofList raw) error := by
  by_cases hmark : sourceMark <+: raw
  · cases parsed with
    | ok e => exact .inl ⟨e, rfl, argumentOf_ok hmark e⟩
    | error error => exact .inr (.inr ⟨error, argumentOf_error hmark error⟩)
  · exact .inr (.inl (argumentOf_of_not_mark hmark parsed))

theorem exists_nested_of_argumentOf_eq {parsed parsed' : Except ExpressionError Expression}
    {raw raw' : List Char} (h : argumentOf parsed raw = argumentOf parsed' raw')
    (hne : raw ≠ raw') : ∃ e, parsed = .ok e ∧ parsed' = .ok e := by
  have htext : String.ofList raw ≠ String.ofList raw' := fun he => hne (String.ofList_injective he)
  rcases argumentOf_cases parsed raw with ⟨e, rfl, he⟩ | he | ⟨_, he⟩
  · rcases argumentOf_cases parsed' raw' with ⟨e', rfl, he'⟩ | he' | ⟨_, he'⟩
    · rw [he, he'] at h
      exact ⟨e, rfl, by rw [Argument.nested.inj h]⟩
    · simp [he, he'] at h
    · simp [he, he'] at h
  · rcases argumentOf_cases parsed' raw' with ⟨_, _, he'⟩ | he' | ⟨_, he'⟩ <;>
      simp [he, he', htext] at h
  · rcases argumentOf_cases parsed' raw' with ⟨_, _, he'⟩ | he' | ⟨_, he'⟩ <;>
      simp [he, he', htext] at h

theorem mark_callChars (before inner closing : List Char) :
    sourceMark <+: callChars before inner closing := by
  have htag : sourceMark <+: callTag.toList := by decide
  exact htag.trans (List.prefix_append _ _)

theorem argumentOf_callChars {before inner closing : List Char} (hname : NamesCallee before)
    (hclose : Closes inner closing) :
    argumentOf (parseChars (callChars before inner closing)) (callChars before inner closing) =
      .nested (.call (String.ofList (calleeName before)) (argumentsOf inner)) := by
  rw [parseChars_callChars hname hclose, argumentOf_ok (mark_callChars before inner closing)]

/-- A call takes whatever stands behind it into its list. -/
theorem parseChars_callChars_append {before inner closing blanks : List Char}
    (hname : NamesCallee before) (hblanks : blanks.all isBlank = true) :
    parseChars (callChars before inner closing ++ (blanks ++ [')'])) =
      .ok (.call (String.ofList (calleeName before)) (argumentsOf (inner ++ closing))) := by
  have hmore : callChars before inner closing ++ (blanks ++ [')']) =
      callChars before (inner ++ closing ++ blanks) [')'] := by simp [callChars]
  rw [hmore, parseChars_callChars hname .closed, argumentsOf_append_blank hblanks]

/-- A text with a parenthesis behind it is the same argument only if it is a call, and one that
lacks its parenthesis or does not mind one more. -/
theorem argumentOfPiece_concat_paren_iff {piece : List Char} :
    argumentOfPiece (piece ++ [')']) = argumentOfPiece piece ↔
      ∃ before inner closing, trim piece = callChars before inner closing ∧ NamesCallee before ∧
        Closes inner closing ∧ argumentsOf (inner ++ closing) = argumentsOf inner := by
  obtain ⟨blanks, hblanks, htrim⟩ := exists_trim_append piece
  have hlonger := htrim ')' [] (by decide) rfl
  rw [argumentOfPiece, argumentOfPiece, hlonger]
  constructor
  · intro h
    obtain ⟨e, hlong, hshort⟩ := exists_nested_of_argumentOf_eq h (by simp)
    rw [parseChars_eq_iff] at hshort
    generalize trim piece = cs at hlong hshort
    cases hshort with
    | source source locator =>
      rw [List.append_assoc, List.cons_append, parseChars_read] at hlong
      simp at hlong
    | @call before inner closing hname hclose =>
      rw [parseChars_callChars_append hname hblanks, Except.ok.injEq,
        Expression.call.injEq] at hlong
      exact ⟨before, inner, closing, rfl, hname, hclose, hlong.2⟩
  · rintro ⟨before, inner, closing, hpiece, hname, hclose, hsame⟩
    have hmark := (mark_callChars before inner closing).trans
      (List.prefix_append _ (blanks ++ [')']))
    rw [hpiece, argumentOf_callChars hname hclose, parseChars_callChars_append hname hblanks,
      argumentOf_ok hmark, hsame]

/-- The last argument is a call that lacks its parenthesis, or one that has it but whose own last
argument is such a call. -/
inductive LastOpen : List Char → Prop
  | intro {inner last before rest closing : List Char} :
    (splitArguments 0 inner).getLast? = some last → trim last = callChars before rest closing →
    NamesCallee before → Closes rest closing → (closing = [')'] → LastOpen rest) → LastOpen inner

theorem argumentsOf_of_split {inner last : List Char} {init : List (List Char)}
    (h : splitArguments 0 inner = init ++ [last]) :
    argumentsOf inner =
      if inner.all isBlank then [] else init.map argumentOfPiece ++ [argumentOfPiece last] := by
  rw [argumentsOf, h, List.map_append, List.map_singleton]

/-- Only the last argument can be another one. -/
theorem argumentsOf_concat_paren_eq_iff {inner last : List Char} {init : List (List Char)}
    (h : splitArguments 0 inner = init ++ [last]) :
    argumentsOf (inner ++ [')']) = argumentsOf inner ↔
      inner.all isBlank = false ∧ argumentOfPiece (last ++ [')']) = argumentOfPiece last := by
  rw [argumentsOf_concat_paren h, argumentsOf_of_split h, List.map_append, List.map_singleton]
  cases hblank : inner.all isBlank with
  | true => simp
  | false => simp

theorem argumentsOf_concat_paren_of_lastOpen {inner : List Char} (h : LastOpen inner) :
    argumentsOf (inner ++ [')']) = argumentsOf inner := by
  induction h with
  | @intro inner last before rest closing hlast hcall hname hclose _ ih =>
    obtain ⟨init, hsplit⟩ := List.getLast?_eq_some_iff.mp hlast
    refine (argumentsOf_concat_paren_eq_iff hsplit).mpr ⟨?_, ?_⟩
    · rw [Bool.eq_false_iff]
      intro hblank
      rw [← intercalate_splitArguments 0 inner] at hblank
      have hnil := trim_of_all_blank (all_isBlank_of_mem hblank (List.mem_of_getLast? hlast))
      rw [hcall] at hnil
      simp [callChars] at hnil
    · refine argumentOfPiece_concat_paren_iff.mpr
        ⟨before, rest, closing, hcall, hname, hclose, ?_⟩
      cases hclose with
      | closed => exact ih rfl
      | unclosed _ => rw [List.append_nil]

/-- Each call that the last argument turns out to be is shorter than the list. -/
theorem lastOpen_of_argumentsOf_eq {inner : List Char}
    (h : argumentsOf (inner ++ [')']) = argumentsOf inner) : LastOpen inner := by
  obtain ⟨init, last, hsplit, -⟩ := exists_splitArguments_append 0 inner
  have hlast : (splitArguments 0 inner).getLast? = some last := by
    rw [hsplit, List.getLast?_concat]
  obtain ⟨before, rest, closing, hcall, hname, hclose, hsame⟩ :=
    argumentOfPiece_concat_paren_iff.mp ((argumentsOf_concat_paren_eq_iff hsplit).mp h).2
  have hlen : rest.length < inner.length := by
    have htrim := length_trim_le last
    have hpart := length_le_of_mem_splitArguments (List.mem_of_getLast? hlast)
    rw [hcall] at htrim
    simp only [callChars, List.length_append, List.length_cons] at htrim
    omega
  exact .intro hlast hcall hname hclose fun hc => lastOpen_of_argumentsOf_eq (hc ▸ hsame)
termination_by inner.length

theorem argumentsOf_concat_paren_eq_iff_lastOpen {inner : List Char} :
    argumentsOf (inner ++ [')']) = argumentsOf inner ↔ LastOpen inner :=
  ⟨lastOpen_of_argumentsOf_eq, argumentsOf_concat_paren_of_lastOpen⟩

/-! ## Calls -/

/-- A call with its parenthesis at the end. -/
def callText (name arguments : String) : String :=
  String.ofList (callChars name.toList arguments.toList [')'])

section Texts

variable {name arguments w : String}

theorem parse_callText (hname : NamesCallee name.toList) :
    parse (callText name arguments) =
      .ok (.call (String.ofList (calleeName name.toList)) (argumentsOf arguments.toList)) := by
  rw [parse, callText, String.toList_ofList, parseChars_callChars hname .closed]

theorem parse_callText_append (hname : NamesCallee name.toList) (hw : isBlankText w = true)
    (hne : w ≠ "") :
    parse (callText name arguments ++ w) =
      .ok (.call (String.ofList (calleeName name.toList))
        (argumentsOf (arguments.toList ++ [')']))) := by
  have htext : (callText name arguments ++ w).toList =
      callChars name.toList (arguments.toList ++ ')' :: w.toList) [] := by
    simp [callText, callChars]
  have hend : (arguments.toList ++ ')' :: w.toList).getLast? ≠ some ')' := by
    intro hlast
    have hnil : w.toList ≠ [] := fun h => hne (String.toList_eq_nil_iff.mp h)
    have hmem : ')' ∈ w.toList := by
      obtain ⟨init, c, hc⟩ := (List.eq_nil_or_concat' w.toList).resolve_left hnil
      rw [hc, ← List.cons_append, ← List.append_assoc, List.getLast?_concat] at hlast
      simp [hc, Option.some.inj hlast]
    exact not_mem_of_all_blank hw (by decide) hmem
  rw [parse, htext, parseChars_callChars hname (.unclosed hend), argumentsOf_paren_blank hw]

/-- A call is one part of a list, whatever white space stands behind it. -/
theorem parted_exchange_callText {front back : List (List Char)} {part : List Char}
    (hname : NamesCallee name.toList) (hcomma : ',' ∉ name.toList)
    (hargs : Balanced arguments.toList) (hw : isBlankText w = true)
    (h : Parted 0 (front ++ part :: back)) :
    Parted 0 (front ++ (callText name arguments ++ w).toList :: back) := by
  have htext : (callText name arguments ++ w).toList = (callTag.toList ++ '|' :: name.toList) ++
      (('(' :: arguments.toList ++ [')']) ++ w.toList) := by
    simp [callText, callChars]
  have hhead : depthAfter 0 (callTag.toList ++ '|' :: name.toList) = 0 := by
    apply depthAfter_zero_of_not_mem
    simp [callTag_eq, hname.no_paren]
  have hlist := hargs.enclose
  have hblank := balanced_of_all_blank hw
  rw [htext]
  apply h.exchange
  · refine .append (.of_not_mem (by simp [callTag_eq, hcomma])) ?_
    rw [hhead]
    exact .append (hlist.noFreeComma hargs.commasInside_enclose)
      (.of_not_mem (comma_not_mem_of_blank hw))
  · rw [depthAfter_append, hhead, (hlist.append hblank).depthAfter_eq]

theorem argumentOfPiece_callText_append (hname : NamesCallee name.toList)
    (hw : isBlankText w = true) :
    argumentOfPiece (callText name arguments ++ w).toList =
      .nested (.call (String.ofList (calleeName name.toList))
        (argumentsOf arguments.toList)) := by
  have htrim : trim (callText name arguments).toList = (callText name arguments).toList := by
    have hclose : (callText name arguments).toList =
        callTag.toList ++ '|' :: (name.toList ++ '(' :: arguments.toList) ++ [')'] := by
      simp [callText, callChars]
    refine trim_eq_self_of_ends (c := 's') ?_ (by decide) (d := ')') ?_ (by decide)
    · simp [callText, callChars, callTag_eq]
    · rw [hclose, List.getLast?_concat]
  rw [argumentOfPiece, String.toList_append, trim_append_blank hw, htrim, callText,
    String.toList_ofList, argumentOf_callChars hname .closed]

/-- What white space behind a call does to it. -/
structure BlanksBehind (name arguments : String) : Prop where
  /-- At the end of a leaf it makes the parenthesis a part of the last argument. -/
  taken : ∀ w, isBlankText w = true → w ≠ "" →
    parse (callText name arguments ++ w) = parse (callText name (arguments ++ ")"))
  /-- That changes the call unless its last argument takes the parenthesis for its own. -/
  same_iff : ∀ w, isBlankText w = true →
    (parse (callText name arguments ++ w) = parse (callText name arguments) ↔
      w = "" ∨ LastOpen arguments.toList)
  /-- As an argument of another call the call is what it is as a leaf. -/
  nested : ',' ∉ name.toList → ∃ e, parse (callText name arguments) = .ok e ∧
    ∀ w outer front part back, isBlankText w = true → NamesCallee (String.toList outer) →
      Parted 0 (front ++ part :: back) → ∃ callee others,
        parse (callText outer (String.ofList
          ([','].intercalate (front ++ (callText name arguments ++ w).toList :: back)))) =
            .ok (.call callee others) ∧ others[front.length]? = some (.nested e)

theorem blanksBehind (hname : NamesCallee name.toList) (hargs : Balanced arguments.toList) :
    BlanksBehind name arguments where
  taken w hw hne := by
    rw [parse_callText_append hname hw hne, parse_callText hname, String.toList_append]
    rfl
  same_iff w hw := by
    by_cases hne : w = ""
    · simp [hne]
    · rw [parse_callText_append hname hw hne, parse_callText hname, Except.ok.injEq,
        Expression.call.injEq, argumentsOf_concat_paren_eq_iff_lastOpen]
      simp [hne]
  nested hcomma := by
    refine ⟨_, parse_callText hname, ?_⟩
    intro w outer front part back hw houter hparted
    have hexchanged := parted_exchange_callText hname hcomma hargs hw hparted
    refine ⟨_, _, parse_callText houter, ?_⟩
    have hblank : ¬ ([','].intercalate
        (front ++ (callText name arguments ++ w).toList :: back)).all isBlank = true := by
      intro hall
      have hcall := all_isBlank_of_mem hall (List.mem_append_right front List.mem_cons_self)
      have hbar : '|' ∈ (callText name arguments ++ w).toList := by simp [callText, callChars]
      exact not_mem_of_all_blank hcall (by decide) hbar
    rw [String.toList_ofList, getElem?_argumentsOf hexchanged, if_neg hblank,
      List.getElem?_append_right (Nat.le_refl _), Nat.sub_self, List.getElem?_cons_zero,
      Option.map_some, argumentOfPiece_callText_append hname hw]

/-- A name with white space and a method, and an argument that is a call itself. -/
theorem blanksBehind_sample :
    NamesCallee " score.Execute".toList ∧ Balanced "src:func|g(a, b) , 2".toList ∧
      BlanksBehind " score.Execute" "src:func|g(a, b) , 2" := by
  have hname : NamesCallee " score.Execute".toList := by decide
  have hargs : Balanced "src:func|g(a, b) , 2".toList := by decide
  exact ⟨hname, hargs, blanksBehind hname hargs⟩

/-- A blank behind the call adds a parenthesis to its argument. -/
theorem parse_callText_append_ne :
    callText "f" "a" ++ " " = "src:func|f(a) " ∧ isBlankText " " = true ∧
      NamesCallee "f".toList ∧ Balanced "a".toList ∧
      parse (callText "f" "a") = .ok (.call "f" [.literal "a"]) ∧
      parse (callText "f" "a" ++ " ") = .ok (.call "f" [.literal "a)"]) ∧
      parse (callText "f" "a" ++ " ") ≠ parse (callText "f" "a") := by
  have hname : NamesCallee "f".toList := by decide
  have hsplit : splitArguments 0 "a".toList = [] ++ ["a".toList] := by decide
  have hshort : argumentsOf "a".toList = [.literal "a"] := by
    rw [argumentsOf_of_split hsplit, argumentOfPiece, argumentOf_of_not_mark (by decide)]
    rfl
  have hlong : argumentsOf ("a".toList ++ [')']) = [.literal "a)"] := by
    rw [argumentsOf_concat_paren hsplit, List.nil_append, List.map_singleton, argumentOfPiece,
      argumentOf_of_not_mark (by decide)]
    rfl
  have hparse := @parse_callText "f" "a" hname
  have hparse' := @parse_callText_append "f" "a" " " hname rfl (by decide)
  rw [hshort] at hparse
  rw [hlong] at hparse'
  refine ⟨by decide, rfl, hname, by decide, hparse, hparse', ?_⟩
  rw [hparse, hparse']
  simp

end Texts

end Expression
end Template
end ApiMapping
