import ApiMapping.Proofs.Template.Parsing

/-!
# Spellings of an expression

An expression that can be written has one rendering, and more spellings: white space may
stand around arguments and names at every level, and a name may carry its method. All
spellings are read as the expression itself.
-/

namespace ApiMapping
namespace Template

open Text

/-- A name before a parenthesis that is read as itself. -/
structure CalleeName (name : String) : Prop where
  ne_nil : name.toList ≠ []
  trimmed : trim name.toList = name.toList
  no_paren : '(' ∉ name.toList
  no_method : ¬ methodSuffix <:+ name.toList

/-- A text that stays one argument when it stands among others. -/
structure ArgumentText (cs : List Char) : Prop where
  trimmed : trim cs = cs
  balanced : Balanced cs
  commasInside : CommasInside cs

instance (cs : List Char) : Decidable (ArgumentText cs) :=
  decidable_of_iff (trim cs = cs ∧ Balanced cs ∧ CommasInside cs)
    ⟨fun h => ⟨h.1, h.2.1, h.2.2⟩, fun h => ⟨h.trimmed, h.balanced, h.commasInside⟩⟩

instance (name : String) : Decidable (CalleeName name) :=
  decidable_of_iff (name.toList ≠ [] ∧ trim name.toList = name.toList ∧ '(' ∉ name.toList ∧
    ¬ methodSuffix <:+ name.toList)
    ⟨fun h => ⟨h.1, h.2.1, h.2.2.1, h.2.2.2⟩,
      fun h => ⟨h.ne_nil, h.trimmed, h.no_paren, h.no_method⟩⟩

namespace Expression

/-- The name of a call that is an argument does not end the argument. -/
def NestedName : Expression → Prop
  | .read _ _ => True
  | .call name _ => ',' ∉ name.toList ∧ ')' ∉ name.toList

mutual

/-- The expressions that can be written. An argument without text can not be the only one,
because an empty list has no arguments. -/
def WellFormed : Expression → Prop
  | .read _ _ => True
  | .call name arguments =>
    CalleeName name ∧ arguments ≠ [.literal ""] ∧ WellFormedList arguments

def WellFormedArgument : Argument → Prop
  | .literal text => ArgumentText text.toList ∧ ¬ sourceMark <+: text.toList
  | .nested e => ArgumentText e.chars ∧ NestedName e ∧ e.WellFormed
  | .malformed raw error =>
    ArgumentText raw.toList ∧ sourceMark <+: raw.toList ∧ parse raw = .error error

def WellFormedList : List Argument → Prop
  | [] => True
  | a :: rest => WellFormedArgument a ∧ WellFormedList rest

end

mutual

/-- The spellings of an expression. -/
inductive Spelling : Expression → List Char → Prop
  | read (source : Source) (locator : String) :
    Spelling (.read source locator) (source.tag.toList ++ '|' :: locator.toList)
  | call {name : String} {arguments : List Argument} {before method after inner : List Char} :
    before.all isBlank = true → after.all isBlank = true → (method = [] ∨ method = methodSuffix) →
    ListSpelling arguments inner →
    Spelling (.call name arguments) (callTag.toList ++ '|' ::
      (before ++ (name.toList ++ method) ++ after ++ '(' :: (inner ++ [')'])))

/-- The spellings of an argument without the white space around it. -/
inductive ArgumentSpelling : Argument → List Char → Prop
  | literal (text : String) : ArgumentSpelling (.literal text) text.toList
  | nested {e : Expression} {cs : List Char} : Spelling e cs → ArgumentSpelling (.nested e) cs
  | malformed (raw : String) (error : ExpressionError) :
    ArgumentSpelling (.malformed raw error) raw.toList

/-- The spellings of a list of arguments, with white space around each. -/
inductive ListSpelling : List Argument → List Char → Prop
  | nil {blanks : List Char} : blanks.all isBlank = true → ListSpelling [] blanks
  | last {a : Argument} {before cs after : List Char} :
    before.all isBlank = true → after.all isBlank = true → ArgumentSpelling a cs →
    ListSpelling [a] (before ++ cs ++ after)
  | cons {a b : Argument} {rest : List Argument} {before cs after inner : List Char} :
    before.all isBlank = true → after.all isBlank = true → ArgumentSpelling a cs →
    ListSpelling (b :: rest) inner →
    ListSpelling (a :: b :: rest) (before ++ cs ++ after ++ ',' :: inner)

end

mutual

/-- The rendering is the spelling without white space and methods. -/
theorem spelling_chars : ∀ e : Expression, Spelling e e.chars
  | .read source locator => .read source locator
  | .call name arguments => by
    have h := @Spelling.call name arguments [] [] [] _ rfl rfl (Or.inl rfl)
      (listSpelling_chars arguments)
    simpa [chars] using h

theorem argumentSpelling_chars : ∀ a : Argument, ArgumentSpelling a (argumentChars a)
  | .literal text => .literal text
  | .nested e => .nested (spelling_chars e)
  | .malformed raw error => .malformed raw error

theorem listSpelling_chars : ∀ arguments : List Argument,
    ListSpelling arguments (argumentListChars arguments)
  | [] => .nil rfl
  | [a] => by
    have h := @ListSpelling.last a [] _ [] rfl rfl (argumentSpelling_chars a)
    simpa [argumentListChars] using h
  | a :: b :: rest => by
    have h := @ListSpelling.cons a b rest [] _ [] _ rfl rfl (argumentSpelling_chars a)
      (listSpelling_chars (b :: rest))
    simpa [argumentListChars] using h

end

theorem not_mem_of_all_blank {cs : List Char} (h : cs.all isBlank = true) {c : Char}
    (hc : isBlank c = false) : c ∉ cs := by
  intro hm
  simp [List.all_eq_true.mp h c hm] at hc

/-- What stands before the parenthesis of a call has no other sign that could end it. -/
theorem not_mem_callHead {c : Char} {name before method after : List Char} (hn : c ∉ name)
    (hb : before.all isBlank = true) (ha : after.all isBlank = true)
    (hm : method = [] ∨ method = methodSuffix) (hc : isBlank c = false) (hs : c ∉ methodSuffix) :
    c ∉ before ++ (name ++ method) ++ after := by
  have hmethod : c ∉ method := by
    rcases hm with rfl | rfl
    · simp
    · exact hs
  simp [not_mem_of_all_blank hb hc, not_mem_of_all_blank ha hc, hn, hmethod]

theorem balanced_callHead {head : List Char} (ho : '(' ∉ head) (hp : ')' ∉ head) :
    Balanced (callTag.toList ++ '|' :: head) :=
  .of_not_mem (by simp [callTag_eq, ho]) (by simp [callTag_eq, hp])

/-- A call is one argument, whatever its own arguments are. -/
theorem argumentText_call {head inner : List Char} (hc : ',' ∉ head) (ho : '(' ∉ head)
    (hp : ')' ∉ head) (hi : Balanced inner) :
    ArgumentText (callTag.toList ++ '|' :: (head ++ '(' :: (inner ++ [')']))) where
  trimmed := by
    have hclose : callTag.toList ++ '|' :: (head ++ '(' :: (inner ++ [')'])) =
        callTag.toList ++ '|' :: (head ++ '(' :: inner) ++ [')'] := by simp
    refine trim_eq_self_of_ends (c := 's') ?_ (by decide) (d := ')') ?_ (by decide)
    · rw [callTag_eq]
      rfl
    · rw [hclose, List.getLast?_concat]
  balanced := by
    simpa using (balanced_callHead ho hp).append hi.enclose
  commasInside := by
    have hcommas : CommasInside (callTag.toList ++ '|' :: head) :=
      .of_not_mem (by simp [callTag_eq, hc])
    simpa using (balanced_callHead ho hp).commasInside_append hcommas hi.commasInside_enclose

theorem balanced_of_all_blank {cs : List Char} (h : cs.all isBlank = true) : Balanced cs :=
  .of_not_mem (not_mem_of_all_blank h (by decide)) (not_mem_of_all_blank h (by decide))

theorem commasInside_of_all_blank {cs : List Char} (h : cs.all isBlank = true) :
    CommasInside cs :=
  .of_not_mem (not_mem_of_all_blank h (by decide))

section Padding

variable {before cs after : List Char}

theorem balanced_pad (h : ArgumentText cs) (hb : before.all isBlank = true)
    (ha : after.all isBlank = true) : Balanced (before ++ cs ++ after) :=
  ((balanced_of_all_blank hb).append h.balanced).append (balanced_of_all_blank ha)

theorem commasInside_pad (h : ArgumentText cs) (hb : before.all isBlank = true)
    (ha : after.all isBlank = true) : CommasInside (before ++ cs ++ after) := by
  have hstart := (balanced_of_all_blank hb).commasInside_append (commasInside_of_all_blank hb)
    h.commasInside
  exact ((balanced_of_all_blank hb).append h.balanced).commasInside_append hstart
    (commasInside_of_all_blank ha)

end Padding

mutual

theorem argumentText_of_spelling : ∀ (a : Argument) {cs : List Char}, WellFormedArgument a →
    ArgumentSpelling a cs → ArgumentText cs
  | .literal text, _, hw, h => by
    cases h
    exact hw.1
  | .malformed raw error, _, hw, h => by
    cases h
    exact hw.1
  | .nested (.read source locator), _, hw, h => by
    cases h with
    | nested h =>
      cases h
      exact hw.1
  | .nested (.call name arguments), _, ⟨_, ⟨hcomma, hclose⟩, hname, _, hargs⟩, h => by
    cases h with
    | nested h =>
      cases h with
      | call hb ha hm hl =>
        exact argumentText_call
          (not_mem_callHead hcomma hb ha hm (by decide) (by decide))
          (not_mem_callHead hname.no_paren hb ha hm (by decide) (by decide))
          (not_mem_callHead hclose hb ha hm (by decide) (by decide))
          (balanced_of_listSpelling arguments hargs hl)

theorem balanced_of_listSpelling : ∀ (arguments : List Argument) {inner : List Char},
    WellFormedList arguments → ListSpelling arguments inner → Balanced inner
  | [], _, _, h => by
    cases h with
    | nil hb => exact balanced_of_all_blank hb
  | [a], _, hw, h => by
    cases h with
    | last hb ha hs => exact balanced_pad (argumentText_of_spelling a hw.1 hs) hb ha
  | a :: b :: rest, _, hw, h => by
    cases h with
    | cons hb ha hs hl =>
      have hfirst := balanced_pad (argumentText_of_spelling a hw.1 hs) hb ha
      have hcomma : Balanced [','] := .of_not_mem (by decide) (by decide)
      have hrest := balanced_of_listSpelling (b :: rest) hw.2 hl
      simpa using (hfirst.append hcomma).append hrest

end

theorem mark_of_spelling {e : Expression} {cs : List Char} (h : Spelling e cs) :
    sourceMark <+: cs := by
  cases h with
  | read source locator =>
    have htag : sourceMark <+: source.tag.toList := by cases source <;> decide
    exact htag.trans (List.prefix_append _ _)
  | call _ _ _ _ =>
    have htag : sourceMark <+: callTag.toList := by decide
    exact htag.trans (List.prefix_append _ _)

/-- An argument as it is read from the piece between two commas. -/
def argumentOfPiece (piece : List Char) : Argument :=
  argumentOf (parseChars (trim piece)) (trim piece)

theorem argumentOfPiece_pad {before cs after : List Char} (h : ArgumentText cs)
    (hb : before.all isBlank = true) (ha : after.all isBlank = true) :
    argumentOfPiece (before ++ cs ++ after) = argumentOf (parseChars cs) cs := by
  rw [argumentOfPiece, trim_pad hb ha, h.trimmed]

/-- The arguments are those of the pieces, unless there is only a blank one. -/
theorem arguments_of_pieces {arguments : List Argument} {inner : List Char}
    (hne : arguments ≠ [.literal ""])
    (h : (splitArguments 0 inner).map argumentOfPiece = arguments) :
    (argumentTexts (inner ++ [')'])).map (fun a => argumentOf (parseChars a) a) = arguments := by
  cases hb : inner.all isBlank with
  | false =>
    rw [argumentTexts_of_not_blank hb, List.map_map, ← h]
    rfl
  | true =>
    rw [splitArguments_eq_singleton (balanced_of_all_blank hb) (commasInside_of_all_blank hb)] at h
    have hempty : argumentOfPiece inner = .literal "" := by
      rw [argumentOfPiece, trim_of_all_blank hb]
      exact argumentOf_of_not_mark (by decide) _
    exact absurd (by simp [← h, hempty]) hne

mutual

/-- Every spelling of a well-formed expression is read as that expression. -/
theorem parseChars_of_spelling : ∀ (e : Expression) {cs : List Char}, e.WellFormed →
    Spelling e cs → parseChars cs = .ok e
  | .read source locator, _, _, h => by
    cases h
    simpa using parseChars_read source locator.toList
  | .call name arguments, _, ⟨hname, hne, hargs⟩, h => by
    cases h with
    | @call _ _ before method after inner hb ha hm hl =>
      have hcallee : calleeName (before ++ (name.toList ++ method) ++ after) = name.toList := by
        rw [calleeName_pad hb ha]
        rcases hm with rfl | rfl
        · simpa using calleeName_of_trimmed hname.trimmed hname.no_method
        · exact calleeName_append_method hname.trimmed hname.ne_nil
      have hparts := callParts?_append
        (not_mem_callHead hname.no_paren hb ha hm (by decide) (by decide))
        (by rw [hcallee]; exact hname.ne_nil) (inner ++ [')'])
      have hread : (argumentTexts (inner ++ [')'])).map (fun a => argumentOf (parseChars a) a) =
          arguments := by
        cases arguments with
        | nil =>
          cases hl with
          | nil hblank => rw [argumentTexts_of_blank hblank, List.map_nil]
        | cons a rest =>
          exact arguments_of_pieces hne (pieces_of_listSpelling (a :: rest) (by simp) hargs hl)
      rw [parseChars_call hparts, hcallee, String.ofList_toList, hread]

theorem argumentOf_of_spelling : ∀ (a : Argument) {cs : List Char}, WellFormedArgument a →
    ArgumentSpelling a cs → argumentOf (parseChars cs) cs = a
  | .literal text, _, hw, h => by
    cases h
    rw [argumentOf_of_not_mark hw.2, String.ofList_toList]
  | .malformed raw error, _, hw, h => by
    cases h
    have hparse : parseChars raw.toList = .error error := hw.2.2
    rw [hparse, argumentOf_error hw.2.1, String.ofList_toList]
  | .nested e, _, hw, h => by
    cases h with
    | nested h => rw [parseChars_of_spelling e hw.2.2 h, argumentOf_ok (mark_of_spelling h)]

/-- The pieces between the commas are the arguments. -/
theorem pieces_of_listSpelling : ∀ (arguments : List Argument) {inner : List Char},
    arguments ≠ [] → WellFormedList arguments → ListSpelling arguments inner →
    (splitArguments 0 inner).map argumentOfPiece = arguments
  | [], _, hne, _, _ => absurd rfl hne
  | [a], _, _, hw, h => by
    cases h with
    | last hb ha hs =>
      have htext := argumentText_of_spelling a hw.1 hs
      rw [splitArguments_eq_singleton (balanced_pad htext hb ha) (commasInside_pad htext hb ha)]
      rw [List.map_singleton, argumentOfPiece_pad htext hb ha, argumentOf_of_spelling a hw.1 hs]
  | a :: b :: rest, _, _, hw, h => by
    cases h with
    | cons hb ha hs hl =>
      have htext := argumentText_of_spelling a hw.1 hs
      rw [splitArguments_append_comma (balanced_pad htext hb ha) (commasInside_pad htext hb ha),
        List.map_cons, argumentOfPiece_pad htext hb ha, argumentOf_of_spelling a hw.1 hs,
        pieces_of_listSpelling (b :: rest) (by simp) hw.2 hl]

end

/-- A well-formed expression is read back from its rendering, and from every spelling that
has more white space. -/
theorem parse_eq_ok_of_spelling (e : Expression) (h : e.WellFormed) :
    parse e.render = .ok e ∧ ∀ s : String, Spelling e s.toList → parse s = .ok e := by
  have hread (s : String) (hs : Spelling e s.toList) : parse s = .ok e :=
    parseChars_of_spelling e h hs
  exact ⟨hread e.render (by simpa [render] using spelling_chars e), hread⟩

/-- A call with separators, commas and parentheses inside its arguments, one of which is a call
itself and one malformed. -/
def sample : Expression :=
  .call "outer" [
    .nested (.call "f|g" [.literal "h(a, b)", .nested (.read .requestBody "x|(1,2).y")]),
    .literal "",
    .malformed "src:cookie|z" (.unknownScheme "src:cookie")]

theorem sample_wellFormed : sample.WellFormed := by
  have hraw : parse "src:cookie|z" = .error (.unknownScheme "src:cookie") :=
    @parseChars_unknown "src:cookie".toList (by decide) (by decide) (by decide) ['z']
  have hinner : WellFormedArgument
      (.nested (.call "f|g" [.literal "h(a, b)", .nested (.read .requestBody "x|(1,2).y")])) :=
    ⟨by decide, ⟨by decide, by decide⟩, by decide, by simp, ⟨by decide, by decide⟩,
      ⟨by decide, trivial, trivial⟩, trivial⟩
  exact ⟨by decide, by simp, hinner, ⟨by decide, by decide⟩, ⟨by decide, by decide, hraw⟩, trivial⟩

/-- Blanks around the arguments at both levels, and a method. -/
def sampleText : String :=
  "src:func| outer.Execute( src:func|f|g( h(a, b) ,src:req_body|x|(1,2).y) , ,src:cookie|z )"

theorem spelling_sampleText : Spelling sample sampleText.toList := by
  have hread := Spelling.read .requestBody "x|(1,2).y"
  have hinner := @ListSpelling.cons _ _ _ [' '] _ [' '] _ rfl rfl (.literal "h(a, b)")
    (@ListSpelling.last _ [] _ [] rfl rfl (.nested hread))
  have hcall := @Spelling.call "f|g" _ [] [] [] _ rfl rfl (Or.inl rfl) hinner
  have hlast := @ListSpelling.last _ [] _ [' '] rfl rfl
    (.malformed "src:cookie|z" (.unknownScheme "src:cookie"))
  have hrest := @ListSpelling.cons _ _ _ [] _ [' '] _ rfl rfl (.literal "") hlast
  have houter := @ListSpelling.cons _ _ _ [' '] _ [' '] _ rfl rfl (.nested hcall) hrest
  have h := @Spelling.call "outer" _ [' '] methodSuffix [] _ rfl rfl (Or.inr rfl) houter
  exact Eq.subst (motive := Spelling sample) (by decide) h

theorem parse_sampleText :
    sample.WellFormed ∧ Spelling sample sampleText.toList ∧
      parse sample.render = .ok sample ∧ parse sampleText = .ok sample :=
  have h := parse_eq_ok_of_spelling sample sample_wellFormed
  ⟨sample_wellFormed, spelling_sampleText, h.1, h.2 sampleText spelling_sampleText⟩

end Expression
end Template
end ApiMapping
