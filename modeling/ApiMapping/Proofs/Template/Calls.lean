import ApiMapping.Proofs.Template.Parting
import ApiMapping.Proofs.Template.Spelling

/-!
# Readings of a text

A text is read in one of five ways, two as an expression and three as an error. What a call is
read as depends on the name before its first parenthesis and on the parts of what follows it,
each of which is an argument by itself.
-/

namespace ApiMapping
namespace Template

open Text

/-! ## Names of calls -/

/-- White space, or a method with white space around it: no name of a plugin. -/
def Nameless (before : List Char) : Prop :=
  before.all isBlank = true ∨ ∃ lead tail, lead.all isBlank = true ∧ tail.all isBlank = true ∧
    before = lead ++ methodSuffix ++ tail

/-- What can stand before the first parenthesis of a call. -/
structure NamesCallee (before : List Char) : Prop where
  no_paren : '(' ∉ before
  named : ¬ Nameless before

/-- There is no parenthesis with a name before it. -/
def LacksName (locator : List Char) : Prop :=
  ∀ before after, locator = before ++ '(' :: after → '(' ∉ before → Nameless before

section Names

variable {before locator : List Char}

theorem nameless_iff : Nameless before ↔ trim before = [] ∨ trim before = methodSuffix := by
  rw [Nameless, trim_eq_nil_iff]
  refine or_congr_right ⟨?_, ?_⟩
  · rintro ⟨lead, tail, hlead, htail, rfl⟩
    rw [trim_pad hlead htail]
    decide
  · intro h
    obtain ⟨lead, tail, hlead, htail, hbefore⟩ := exists_pad_trim before
    exact ⟨lead, tail, hlead, htail, h ▸ hbefore⟩

instance (before : List Char) : Decidable (Nameless before) :=
  decidable_of_iff _ nameless_iff.symm

instance (before : List Char) : Decidable (NamesCallee before) :=
  decidable_of_iff ('(' ∉ before ∧ ¬ Nameless before)
    ⟨fun h => ⟨h.1, h.2⟩, fun h => ⟨h.no_paren, h.named⟩⟩

theorem calleeName_eq_nil_iff : calleeName before = [] ↔ Nameless before := by
  have hsuffix : methodSuffix ≠ [] := by decide
  rw [nameless_iff, calleeName]
  cases h : beforeEnd? methodSuffix (trim before) with
  | none =>
    have hend := beforeEnd?_eq_none_iff.mp h
    have hne : trim before ≠ methodSuffix := fun he => hend (he ▸ List.suffix_refl _)
    simp [hne]
  | some name =>
    rw [beforeEnd?_eq_some_iff.mp h]
    simp [hsuffix]

theorem NamesCallee.calleeName_ne_nil (h : NamesCallee before) : calleeName before ≠ [] :=
  fun hnil => h.named (calleeName_eq_nil_iff.mp hnil)

theorem NamesCallee.callParts? (h : NamesCallee before) (after : List Char) :
    callParts? (before ++ '(' :: after) = some (calleeName before, argumentTexts after) :=
  callParts?_append h.no_paren h.calleeName_ne_nil after

theorem lacksName_append (hp : '(' ∉ before) (after : List Char) :
    LacksName (before ++ '(' :: after) ↔ Nameless before := by
  constructor
  · intro h
    exact h before after rfl hp
  · intro h before' after' he hp'
    have hcut := cut?_append hp after
    rw [he, cut?_append hp'] at hcut
    simp only [Option.some.injEq, Prod.mk.injEq] at hcut
    rwa [hcut.1]

theorem callParts?_eq_none_of_lacksName (h : LacksName locator) : callParts? locator = none := by
  unfold callParts?
  split
  · rfl
  · rename_i before after hcut
    obtain ⟨rfl, hp⟩ := cut?_eq_some hcut
    simp [calleeName_eq_nil_iff.mpr (h before after rfl hp)]

theorem lacksName_or_exists (locator : List Char) :
    LacksName locator ∨ ∃ before after, locator = before ++ '(' :: after ∧ NamesCallee before := by
  cases hcut : cut? '(' locator with
  | none =>
    left
    rintro before after rfl
    simp [cut?_eq_none_iff] at hcut
  | some parts =>
    obtain ⟨before, after⟩ := parts
    obtain ⟨rfl, hp⟩ := cut?_eq_some hcut
    by_cases hname : Nameless before
    · exact .inl ((lacksName_append hp after).mpr hname)
    · exact .inr ⟨before, after, rfl, hp, hname⟩

end Names

/-! ## Lists of arguments -/

/-- How a list of arguments ends: with its parenthesis, or without one. -/
inductive Closes (inner : List Char) : List Char → Prop
  | closed : Closes inner [')']
  | unclosed : inner.getLast? ≠ some ')' → Closes inner []

theorem exists_closes (after : List Char) :
    ∃ inner closing, after = inner ++ closing ∧ Closes inner closing := by
  by_cases h : after.getLast? = some ')'
  · obtain ⟨inner, rfl⟩ := List.getLast?_eq_some_iff.mp h
    exact ⟨inner, [')'], rfl, .closed⟩
  · exact ⟨after, [], (List.append_nil after).symm, .unclosed h⟩

/-- The text of a call. -/
def callChars (before inner closing : List Char) : List Char :=
  callTag.toList ++ '|' :: (before ++ '(' :: (inner ++ closing))

/-- The tags that an expression can start with. -/
def tags : List String := Source.all.map Source.tag ++ [callTag]

example : tags = ["src:static", "src:query", "src:req_header", "src:res_header", "src:req_body",
    "src:res_body", "src:func"] := rfl

theorem mem_tags_iff {tag : String} :
    tag ∈ tags ↔ (∃ source, Source.tag source = tag) ∨ tag = callTag := by
  have hall (source : Source) : source ∈ Source.all := by cases source <;> decide
  simp [tags, hall]

theorem Source.tag_ne_callTag (source : Source) : source.tag ≠ callTag := by
  cases source <;> decide

theorem Source.tag_of_ofTag? {tag : String} {source : Source} (h : ofTag? tag = some source) :
    source.tag = tag := by
  simpa using List.find?_some h

theorem Source.ofTag?_eq_none {tag : String} (h : tag ∉ tags) : ofTag? tag = none := by
  cases hs : ofTag? tag with
  | none => rfl
  | some source => exact absurd (mem_tags_iff.mpr (.inl ⟨source, tag_of_ofTag? hs⟩)) h

namespace Expression

/-- The arguments that a list spells, one for each part of it. -/
def argumentsOf (inner : List Char) : List Argument :=
  if inner.all isBlank then [] else (splitArguments 0 inner).map argumentOfPiece

section Calls

variable {parts : List (List Char)} {part before inner closing : List Char}

theorem all_isBlank_of_mem (h : ([','].intercalate parts).all isBlank = true) (hmem : part ∈ parts) :
    part.all isBlank = true := by
  obtain ⟨front, back, rfl⟩ := List.append_of_mem hmem
  rw [intercalate_append_cons, List.all_append, List.all_append, Bool.and_eq_true,
    Bool.and_eq_true] at h
  exact h.1.2

/-- A comma between two parts is not blank. -/
theorem length_le_one_of_all_isBlank (h : ([','].intercalate parts).all isBlank = true) :
    parts.length ≤ 1 := by
  match parts, h with
  | [], _ => exact Nat.zero_le 1
  | [_], _ => exact Nat.le_refl 1
  | first :: second :: rest, h =>
    have hcomma : isBlank ',' = false := by decide
    simp [List.intercalate_cons_cons, hcomma] at h

theorem getElem?_argumentsOf (h : Parted 0 parts) (i : Nat) :
    (argumentsOf ([','].intercalate parts))[i]? =
      if ([','].intercalate parts).all isBlank then none else parts[i]?.map argumentOfPiece := by
  unfold argumentsOf
  rw [h.splitArguments_eq]
  split
  · rfl
  · exact List.getElem?_map

theorem argumentTexts_of_closes (h : Closes inner closing) :
    (argumentTexts (inner ++ closing)).map (fun a => argumentOf (parseChars a) a) =
      argumentsOf inner := by
  have hinner : (beforeEnd? [')'] (inner ++ closing)).getD (inner ++ closing) = inner := by
    cases h with
    | closed => rw [beforeEnd?_append, Option.getD_some]
    | unclosed hlast =>
      rw [List.append_nil, beforeEnd?_eq_none_iff.mpr, Option.getD_none]
      rintro ⟨rest, rfl⟩
      simp at hlast
  unfold argumentTexts argumentsOf
  dsimp only
  rw [hinner]
  split
  · rfl
  · rw [List.map_map]
    rfl

theorem parseChars_callChars (hname : NamesCallee before) (hclose : Closes inner closing) :
    parseChars (callChars before inner closing) =
      .ok (.call (String.ofList (calleeName before)) (argumentsOf inner)) := by
  rw [callChars, parseChars_call (hname.callParts? _), argumentTexts_of_closes hclose]

end Calls

/-- How a text is read: what is said about it, and for which texts. -/
inductive ReadsAs : List Char → Except ExpressionError Expression → Prop
  | unseparated {cs : List Char} : '|' ∉ cs →
    ReadsAs cs (.error (.missingSeparator (String.ofList cs)))
  | unknown {tag locator : List Char} : '|' ∉ tag → String.ofList tag ∉ tags →
    ReadsAs (tag ++ '|' :: locator) (.error (.unknownScheme (String.ofList tag)))
  | nameless {locator : List Char} : LacksName locator →
    ReadsAs (callTag.toList ++ '|' :: locator) (.error (.malformedCall (String.ofList locator)))
  | source (source : Source) (locator : List Char) :
    ReadsAs (source.tag.toList ++ '|' :: locator) (.ok (.read source (String.ofList locator)))
  | call {before inner closing : List Char} : NamesCallee before → Closes inner closing →
    ReadsAs (callChars before inner closing)
      (.ok (.call (String.ofList (calleeName before)) (argumentsOf inner)))

theorem parseChars_of_not_mem {cs : List Char} (h : '|' ∉ cs) :
    parseChars cs = .error (.missingSeparator (String.ofList cs)) := by
  rw [parseChars]
  split
  · rfl
  · rename_i hcut
    rw [cut?_eq_none_iff.mpr h] at hcut
    cases hcut

theorem parseChars_nameless {locator : List Char} (h : LacksName locator) :
    parseChars (callTag.toList ++ '|' :: locator) =
      .error (.malformedCall (String.ofList locator)) := by
  have hbar : '|' ∉ callTag.toList := by decide
  rw [parseChars_append_bar hbar, String.ofList_toList, Source.ofTag?_callTag]
  simp only [↓reduceIte, callParts?_eq_none_of_lacksName h]

theorem ReadsAs.parseChars_eq {cs : List Char} {r : Except ExpressionError Expression}
    (h : ReadsAs cs r) : parseChars cs = r := by
  cases h with
  | unseparated hbar => exact parseChars_of_not_mem hbar
  | unknown hbar htag =>
    refine parseChars_unknown hbar (Source.ofTag?_eq_none htag) ?_ _
    rintro rfl
    exact htag (by rw [String.ofList_toList]; decide)
  | nameless hlacks => exact parseChars_nameless hlacks
  | source source locator => exact parseChars_read source locator
  | call hname hclose => exact parseChars_callChars hname hclose

theorem exists_readsAs (cs : List Char) : ∃ r, ReadsAs cs r := by
  cases hcut : cut? '|' cs with
  | none => exact ⟨_, .unseparated (cut?_eq_none_iff.mp hcut)⟩
  | some parts =>
    obtain ⟨tag, locator⟩ := parts
    obtain ⟨rfl, hbar⟩ := cut?_eq_some hcut
    by_cases htag : String.ofList tag ∈ tags
    · have htag' : tag = (String.ofList tag).toList := String.toList_ofList.symm
      rcases mem_tags_iff.mp htag with ⟨source, hsource⟩ | hcall
      · rw [htag', ← hsource]
        exact ⟨_, .source source locator⟩
      · rw [htag', hcall]
        rcases lacksName_or_exists locator with hlacks | ⟨before, after, rfl, hname⟩
        · exact ⟨_, .nameless hlacks⟩
        · obtain ⟨inner, closing, rfl, hclose⟩ := exists_closes after
          exact ⟨_, .call hname hclose⟩
    · exact ⟨_, .unknown hbar htag⟩

/-- Every text has exactly one reading, and the parser finds it. -/
theorem parseChars_eq_iff {cs : List Char} {r : Except ExpressionError Expression} :
    parseChars cs = r ↔ ReadsAs cs r := by
  constructor
  · rintro rfl
    obtain ⟨r, hr⟩ := exists_readsAs cs
    rwa [hr.parseChars_eq]
  · exact ReadsAs.parseChars_eq

end Expression
end Template
end ApiMapping
