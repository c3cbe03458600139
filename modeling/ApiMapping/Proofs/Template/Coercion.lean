import ApiMapping.Proofs.Text.Numeral
import ApiMapping.Template.Resolve

/-!
# Static texts as values

A static text is a truth value, an integer of 64 bits or a string, whichever its characters spell.
Nothing is lost: the value is written as the text again, except that an integer comes back in its
one spelling without anything superfluous.
-/

namespace ApiMapping
namespace Template

open Text

/-- The text is an integer of 64 bits in one of its spellings. -/
def SpellsInteger (text : String) (i : Int) : Prop := Numeral text.toList i ∧ Signed64 i

def truthWord : Bool → String
  | true => "true"
  | false => "false"

/-- The text is neither a truth value nor an integer. -/
structure Textual (text : String) : Prop where
  ne_truthWord : ∀ b, text ≠ truthWord b
  not_integer : ∀ i, ¬ SpellsInteger text i

/-- The value that a text stands for. -/
inductive Denotes : String → Json → Prop
  | bool (b : Bool) : Denotes (truthWord b) (.bool b)
  | integer {text : String} {i : Int} : SpellsInteger text i → Denotes text (.ofInt i)
  | string {text : String} : Textual text → Denotes text (.string text)

/-- The values that texts stand for. -/
inductive Static : Json → Prop
  | bool (b : Bool) : Static (.bool b)
  | integer {i : Int} : Signed64 i → Static (.ofInt i)
  | string {s : String} : Textual s → Static (.string s)

section Texts

variable {text : String} {i : Int} {v : Json}

theorem spellsInteger_iff : SpellsInteger text i ↔ signed? text.toList = some i :=
  signed?_eq_some_iff.symm

theorem SpellsInteger.ne_truthWord (h : SpellsInteger text i) (b : Bool) : text ≠ truthWord b := by
  rintro rfl
  have hword : signed? (truthWord b).toList = none := by cases b <;> decide
  rw [spellsInteger_iff, hword] at h
  cases h

theorem coerce_truthWord (b : Bool) : coerce (truthWord b) = .bool b := by cases b <;> rfl

theorem coerce_of_ne_truthWord (h : ∀ b, text ≠ truthWord b) :
    coerce text = ((signed? text.toList).map Json.ofInt).getD (.string text) := by
  have htrue : text ≠ "true" := h true
  have hfalse : text ≠ "false" := h false
  rw [coerce, if_neg htrue, if_neg hfalse]
  cases signed? text.toList <;> rfl

theorem exists_denotes (text : String) : ∃ v, Denotes text v := by
  by_cases hbool : ∃ b, text = truthWord b
  · obtain ⟨b, rfl⟩ := hbool
    exact ⟨_, .bool b⟩
  · by_cases hinteger : ∃ i, SpellsInteger text i
    · obtain ⟨i, hi⟩ := hinteger
      exact ⟨_, .integer hi⟩
    · exact ⟨_, .string ⟨not_exists.mp hbool, not_exists.mp hinteger⟩⟩

theorem Denotes.coerce_eq (h : Denotes text v) : coerce text = v := by
  cases h with
  | bool b => exact coerce_truthWord b
  | integer hi =>
    rw [coerce_of_ne_truthWord hi.ne_truthWord, spellsInteger_iff.mp hi]
    rfl
  | string hs =>
    have hread : signed? text.toList = none := by
      rw [Option.eq_none_iff_forall_ne_some]
      intro i hi
      exact hs.not_integer i (spellsInteger_iff.mpr hi)
    rw [coerce_of_ne_truthWord hs.ne_truthWord, hread]
    rfl

/-- Every text stands for exactly one value. -/
theorem coerce_eq_iff : coerce text = v ↔ Denotes text v := by
  constructor
  · rintro rfl
    obtain ⟨v, hv⟩ := exists_denotes text
    rwa [hv.coerce_eq]
  · exact Denotes.coerce_eq

theorem coerce_eq_bool_iff {b : Bool} : coerce text = .bool b ↔ text = truthWord b := by
  rw [coerce_eq_iff]
  constructor
  · intro h
    cases h
    rfl
  · rintro rfl
    exact .bool b

theorem coerce_eq_ofInt_iff : coerce text = .ofInt i ↔ SpellsInteger text i := by
  rw [coerce_eq_iff]
  constructor
  · intro h
    cases h with
    | integer hi => exact hi
  · exact .integer

/-! ## There and back -/

theorem plainText_bool (b : Bool) : (Json.bool b).plainText = truthWord b := by cases b <;> rfl

theorem plainText_ofInt (i : Int) : (Json.ofInt i).plainText = String.ofList (ofInt i) := rfl

theorem Denotes.static (h : Denotes text v) : Static v := by
  cases h with
  | bool b => exact .bool b
  | integer hi => exact .integer hi.2
  | string hs => exact .string hs

theorem Static.denotes (h : Static v) : Denotes v.plainText v := by
  cases h with
  | bool b =>
    rw [plainText_bool]
    exact .bool b
  | @integer i hi =>
    apply Denotes.integer
    rw [SpellsInteger, plainText_ofInt, String.toList_ofList]
    exact ⟨numeral_ofInt i, hi⟩
  | string hs => exact .string hs

/-- A value is read back from its text exactly if some text stands for it. -/
theorem coerce_plainText_eq_iff : coerce v.plainText = v ↔ Static v := by
  rw [coerce_eq_iff]
  exact ⟨Denotes.static, Static.denotes⟩

theorem plainText_coerce_of_spellsInteger (h : SpellsInteger text i) :
    (coerce text).plainText = String.ofList (ofInt i) := by
  rw [coerce_eq_ofInt_iff.mpr h, plainText_ofInt]

/-- An integer is written in its one spelling without anything superfluous. -/
theorem eq_toList_plainText_coerce_iff (h : SpellsInteger text i) (cs : List Char) :
    cs = (coerce text).plainText.toList ↔ Numeral cs i ∧ ¬ Padded cs := by
  rw [plainText_coerce_of_spellsInteger h, String.toList_ofList, numeral_and_not_padded_iff]

theorem plainText_coerce_eq_iff :
    (coerce text).plainText = text ↔ ¬ ((∃ i, SpellsInteger text i) ∧ Padded text.toList) := by
  constructor
  · rintro heq ⟨⟨i, hi⟩, hpadded⟩
    have hback := (eq_toList_plainText_coerce_iff hi text.toList).mp (by rw [heq])
    exact hback.2 hpadded
  · intro hpadded
    obtain ⟨v, hv⟩ := exists_denotes text
    cases hv with
    | bool b => rw [coerce_truthWord, plainText_bool]
    | @integer _ i hi =>
      have hback := (eq_toList_plainText_coerce_iff hi text.toList).mpr
        ⟨hi.1, fun h => hpadded ⟨⟨i, hi⟩, h⟩⟩
      exact (String.toList_inj.mp hback).symm
    | string hs => rw [(Denotes.string hs).coerce_eq, Json.plainText_string]

example : (coerce "+007").plainText = "7" := by decide

end Texts

/-- What is known of texts by their values, and of values by their texts. -/
structure LosslessCoercion : Prop where
  bool_iff : ∀ text b, coerce text = .bool b ↔ text = truthWord b
  integer_iff : ∀ text i, coerce text = .ofInt i ↔ Numeral text.toList i ∧ Signed64 i
  string_otherwise : ∀ text, (∀ b, text ≠ truthWord b) →
    (∀ i, ¬ (Numeral text.toList i ∧ Signed64 i)) → coerce text = .string text
  /-- Truth values, integers and strings that are neither are read back, and no other values. -/
  value_iff : ∀ v, coerce v.plainText = v ↔ Static v
  text_iff : ∀ text, (coerce text).plainText = text ↔
    ¬ ((∃ i, SpellsInteger text i) ∧ Padded text.toList)
  /-- An integer becomes its one spelling that is not padded. -/
  respelled : ∀ text i, SpellsInteger text i →
    ∀ cs, cs = (coerce text).plainText.toList ↔ Numeral cs i ∧ ¬ Padded cs

/-- Typing a static text loses nothing but the spelling of an integer. -/
theorem losslessCoercion : LosslessCoercion where
  bool_iff _ _ := coerce_eq_bool_iff
  integer_iff _ _ := coerce_eq_ofInt_iff
  string_otherwise _ hbool hinteger := (Denotes.string ⟨hbool, hinteger⟩).coerce_eq
  value_iff _ := coerce_plainText_eq_iff
  text_iff _ := plainText_coerce_eq_iff
  respelled _ _ h := eq_toList_plainText_coerce_iff h

end Template
end ApiMapping
