import ApiMapping.Proofs.Template.Calls

/-!
# Which texts are expressions

The parser accepts a text exactly if its tag is known and a call has a name, and each error says
which of this failed and where. A defect in an argument stays where it is: it is kept with its
own error, and the other arguments are what they are beside any plain text.
-/

namespace ApiMapping
namespace Template
namespace Expression

open Text

/-! ## One argument among others -/

section Parts

variable {parts front back : List (List Char)} {part plain before closing : List Char}

/-- A part with the mark of an expression that is none becomes a malformed argument. -/
theorem getElem?_argumentsOf_malformed (h : Parted 0 parts) {i : Nat} {error : ExpressionError}
    (hpart : parts[i]? = some part) (hmark : sourceMark <+: trim part)
    (herror : parse (String.ofList (trim part)) = .error error) :
    (argumentsOf ([','].intercalate parts))[i]? =
      some (.malformed (String.ofList (trim part)) error) := by
  have hblank : ¬ ([','].intercalate parts).all isBlank = true := by
    intro hall
    have hnil := trim_of_all_blank (all_isBlank_of_mem hall (List.mem_of_getElem? hpart))
    rw [hnil] at hmark
    exact absurd (List.prefix_nil.mp hmark) (by decide)
  rw [parse, String.toList_ofList] at herror
  rw [getElem?_argumentsOf h, if_neg hblank, hpart, Option.map_some, argumentOfPiece, herror,
    argumentOf_error hmark]

theorem getElem?_argumentsOf_set (h : Parted 0 parts) {i : Nat} (h' : Parted 0 (parts.set i plain))
    {j : Nat} (hj : j ≠ i) :
    (argumentsOf ([','].intercalate (parts.set i plain)))[j]? =
      (argumentsOf ([','].intercalate parts))[j]? := by
  rw [getElem?_argumentsOf h, getElem?_argumentsOf h', List.getElem?_set_ne hj.symm]
  cases hpart : parts[j]? with
  | none => simp
  | some part =>
    by_cases hlen : parts.length ≤ 1
    · -- The only part stands at `j`, so that nothing was exchanged.
      have hlt : j < parts.length := (List.getElem?_eq_some_iff.mp hpart).1
      rw [List.set_eq_of_length_le (by omega)]
    · rw [if_neg fun hall => hlen (length_le_one_of_all_isBlank hall), if_neg]
      intro hall
      have hset := length_le_one_of_all_isBlank hall
      rw [List.length_set] at hset
      exact hlen hset

theorem closes_exchange (hclose : ')' ∉ plain)
    (h : Closes ([','].intercalate (front ++ part :: back)) closing) :
    Closes ([','].intercalate (front ++ plain :: back)) closing := by
  cases h with
  | closed => exact .closed
  | unclosed hlast =>
    refine .unclosed ?_
    have hfront : (front.flatMap (· ++ [','])).getLast? ≠ some ')' := by
      rcases List.eq_nil_or_concat' front with rfl | ⟨init, last, rfl⟩
      · simp
      · rw [List.flatMap_append, List.flatMap_singleton, ← List.append_assoc,
          List.getLast?_concat]
        decide
    rw [intercalate_append_cons, List.getLast?_append] at hlast ⊢
    cases hback : (back.flatMap (',' :: ·)).getLast? with
    | some c => simpa [hback] using hlast
    | none =>
      rw [Option.none_or, List.getLast?_append]
      cases hplain : plain.getLast? with
      | none => simpa using hfront
      | some c =>
        rintro ⟨⟩
        exact hclose (List.mem_of_getLast? hplain)

theorem exists_split_of_lt {i : Nat} (h : i < parts.length) :
    parts = parts.take i ++ parts[i] :: parts.drop (i + 1) := by
  rw [List.getElem_cons_drop, List.take_append_drop]

/-- What is said about the arguments of a call with these parts. -/
structure Isolated (name : String) (arguments : List Argument) (before : List Char)
    (parts : List (List Char)) (closing : List Char) : Prop where
  /-- An argument that is no expression in spite of its mark is kept with its error. -/
  malformed : ∀ (i : Nat) (part : List Char) (error : ExpressionError),
    parts[i]? = some part → sourceMark <+: trim part →
    parse (String.ofList (trim part)) = .error error →
    arguments[i]? = some (Argument.malformed (String.ofList (trim part)) error)
  /-- The others are what they are beside a plain text in its place. -/
  others : ∀ (i : Nat) (plain : List Char), ',' ∉ plain → '(' ∉ plain → ')' ∉ plain →
    ∃ arguments', parse (String.ofList (callChars before ([','].intercalate (parts.set i plain)) closing)) =
      .ok (.call name arguments') ∧ ∀ j, j ≠ i → arguments'[j]? = arguments[j]?

theorem isolated_argumentsOf (hname : NamesCallee before) (hparted : Parted 0 parts)
    (hclose : Closes ([','].intercalate parts) closing) :
    Isolated (String.ofList (calleeName before)) (argumentsOf ([','].intercalate parts)) before
      parts closing where
  malformed _ _ _ hpart hmark herror :=
    getElem?_argumentsOf_malformed hparted hpart hmark herror
  others i plain hcomma hopen hclosing := by
    by_cases hlt : i < parts.length
    · have hset : parts.set i plain = parts.take i ++ plain :: parts.drop (i + 1) := by
        rw [List.set_eq_take_append_cons_drop, if_pos hlt]
      rw [exists_split_of_lt hlt] at hclose
      have hclose' : Closes ([','].intercalate (parts.set i plain)) closing :=
        hset ▸ closes_exchange hclosing hclose
      have hparted' : Parted 0 (parts.set i plain) := by
        rw [hset]
        rw [exists_split_of_lt hlt] at hparted
        exact hparted.exchange (.of_not_mem hcomma)
          ((Balanced.of_not_mem hopen hclosing).depthAfter_eq 0)
      refine ⟨_, ?_, fun j hj => getElem?_argumentsOf_set hparted hparted' hj⟩
      rw [parse, String.toList_ofList, parseChars_callChars hname hclose']
    · rw [List.set_eq_of_length_le (Nat.le_of_not_lt hlt)]
      refine ⟨_, ?_, fun _ _ => rfl⟩
      rw [parse, String.toList_ofList, parseChars_callChars hname hclose]

end Parts

/-! ## Every text -/

theorem toList_append_bar (tag locator : String) :
    (tag ++ "|" ++ locator).toList = tag.toList ++ '|' :: locator.toList := by
  simp

theorem eq_append_bar_iff {s tag locator : String} :
    s = tag ++ "|" ++ locator ↔ s.toList = tag.toList ++ '|' :: locator.toList := by
  rw [← String.toList_inj, toList_append_bar]

section Texts

variable {s tag locator : String}

theorem parse_eq_iff {r : Except ExpressionError Expression} : parse s = r ↔ ReadsAs s.toList r :=
  parseChars_eq_iff

theorem parse_eq_missingSeparator_iff {text : String} :
    parse s = .error (.missingSeparator text) ↔ text = s ∧ '|' ∉ s.toList := by
  rw [parse_eq_iff]
  constructor
  · generalize hs : s.toList = cs
    intro h
    cases h with
    | unseparated hbar => exact ⟨by rw [← hs, String.ofList_toList], hbar⟩
  · rintro ⟨rfl, hbar⟩
    simpa using ReadsAs.unseparated hbar

theorem parse_eq_unknownScheme_iff :
    parse s = .error (.unknownScheme tag) ↔
      ∃ locator, s = tag ++ "|" ++ locator ∧ '|' ∉ tag.toList ∧ tag ∉ tags := by
  rw [parse_eq_iff]
  constructor
  · generalize hs : s.toList = cs
    intro h
    cases h with
    | @unknown tag locator hbar htag =>
      refine ⟨String.ofList locator, ?_, by simpa using hbar, htag⟩
      rw [eq_append_bar_iff, hs, String.toList_ofList, String.toList_ofList]
  · rintro ⟨locator, rfl, hbar, htag⟩
    have h := @ReadsAs.unknown tag.toList locator.toList hbar (by simpa using htag)
    rw [toList_append_bar]
    simpa using h

theorem parse_eq_malformedCall_iff :
    parse s = .error (.malformedCall locator) ↔
      s = callTag ++ "|" ++ locator ∧ LacksName locator.toList := by
  rw [parse_eq_iff]
  constructor
  · generalize hs : s.toList = cs
    intro h
    cases h with
    | nameless hlacks =>
      rw [eq_append_bar_iff, hs, String.toList_ofList]
      exact ⟨rfl, hlacks⟩
  · rintro ⟨rfl, hlacks⟩
    rw [toList_append_bar]
    simpa using ReadsAs.nameless hlacks

theorem parse_eq_read_iff {source : Source} :
    parse s = .ok (.read source locator) ↔ s = source.tag ++ "|" ++ locator := by
  rw [parse_eq_iff]
  constructor
  · generalize hs : s.toList = cs
    intro h
    cases h with
    | source source locator => rw [eq_append_bar_iff, hs, String.toList_ofList]
  · rintro rfl
    rw [toList_append_bar]
    simpa using ReadsAs.source source locator.toList

theorem exists_parse_eq_ok_iff :
    (∃ e, parse s = .ok e ∧ e.tag = tag) ↔ tag ∈ tags ∧
      ∃ locator, s = tag ++ "|" ++ locator ∧ (tag = callTag → ¬ LacksName locator.toList) := by
  simp only [parse_eq_iff]
  constructor
  · generalize hs : s.toList = cs
    rintro ⟨e, h, rfl⟩
    cases h with
    | source source locator =>
      refine ⟨mem_tags_iff.mpr (.inl ⟨source, rfl⟩), String.ofList locator, ?_, ?_⟩
      · rw [eq_append_bar_iff, hs, String.toList_ofList]
        rfl
      · intro hcall
        exact absurd hcall source.tag_ne_callTag
    | @call before inner closing hname hclose =>
      refine ⟨mem_tags_iff.mpr (.inr rfl), String.ofList (before ++ '(' :: (inner ++ closing)),
        ?_, ?_⟩
      · rw [eq_append_bar_iff, hs, String.toList_ofList]
        rfl
      · rw [String.toList_ofList, lacksName_append hname.no_paren]
        exact fun _ => hname.named
  · rintro ⟨htag, locator, rfl, hnamed⟩
    rw [toList_append_bar]
    rcases mem_tags_iff.mp htag with ⟨source, rfl⟩ | rfl
    · exact ⟨_, .source source locator.toList, rfl⟩
    · obtain ⟨before, after, hlocator, hname⟩ :=
        (lacksName_or_exists locator.toList).resolve_left (hnamed rfl)
      obtain ⟨inner, closing, rfl, hclose⟩ := exists_closes after
      rw [hlocator]
      exact ⟨_, .call hname hclose, rfl⟩

/-- A call is made of a name and parts, and every part is an argument by itself. -/
theorem exists_isolated_of_parse {name : String} {arguments : List Argument}
    (h : parse s = .ok (.call name arguments)) :
    ∃ before parts closing, NamesCallee before ∧ Parted 0 parts ∧
      Closes ([','].intercalate parts) closing ∧
      s.toList = callChars before ([','].intercalate parts) closing ∧
      Isolated name arguments before parts closing := by
  rw [parse_eq_iff] at h
  generalize s.toList = cs at h ⊢
  cases h with
  | @call before inner closing hname hclose =>
    obtain ⟨hparted, hinner⟩ := splitArguments_eq_iff.mp (Eq.refl (splitArguments 0 inner))
    rw [← hinner] at hclose ⊢
    exact ⟨before, _, closing, hname, hparted, hclose, rfl,
      isolated_argumentsOf hname hparted hclose⟩

end Texts

/-- What the parser says about a text, and when. -/
structure Diagnosed (s : String) : Prop where
  separator_iff : ∀ text, parse s = .error (.missingSeparator text) ↔ text = s ∧ '|' ∉ s.toList
  scheme_iff : ∀ tag, parse s = .error (.unknownScheme tag) ↔
    ∃ locator, s = tag ++ "|" ++ locator ∧ '|' ∉ tag.toList ∧ tag ∉ tags
  call_iff : ∀ locator, parse s = .error (.malformedCall locator) ↔
    s = callTag ++ "|" ++ locator ∧ LacksName locator.toList
  accepted_iff : ∀ tag, (∃ e, parse s = .ok e ∧ e.tag = tag) ↔ tag ∈ tags ∧
    ∃ locator, s = tag ++ "|" ++ locator ∧ (tag = callTag → ¬ LacksName locator.toList)
  /-- The text of a simple expression is its tag and its locator. -/
  read_iff : ∀ source locator, parse s = .ok (.read source locator) ↔
    s = Source.tag source ++ "|" ++ locator
  /-- A defect in an argument of a call stays in its place. -/
  isolated : ∀ name arguments, parse s = .ok (.call name arguments) →
    ∃ before parts closing, NamesCallee before ∧ Parted 0 parts ∧
      Closes ([','].intercalate parts) closing ∧
      s.toList = callChars before ([','].intercalate parts) closing ∧
      Isolated name arguments before parts closing

/-- The parser accepts exactly its grammar and says why it does not. -/
theorem diagnosed (s : String) : Diagnosed s where
  separator_iff _ := parse_eq_missingSeparator_iff
  scheme_iff _ := parse_eq_unknownScheme_iff
  call_iff _ := parse_eq_malformedCall_iff
  accepted_iff _ := exists_parse_eq_ok_iff
  read_iff _ _ := parse_eq_read_iff
  isolated _ _ := exists_isolated_of_parse

end Expression
end Template
end ApiMapping
