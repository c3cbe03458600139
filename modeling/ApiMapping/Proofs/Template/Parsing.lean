import ApiMapping.Proofs.Template.Parentheses
import ApiMapping.Proofs.Text.Cut
import ApiMapping.Proofs.Text.Trim
import ApiMapping.Template.Expression

/-!
# What the parser of expressions does

One equation for each way in which an expression is read. A call is read through its
parts, the trimmed name and the trimmed pieces of the argument list.
-/

namespace ApiMapping
namespace Template

open Text

theorem methodSuffix_eq : methodSuffix = ['.', 'E', 'x', 'e', 'c', 'u', 't', 'e'] := by decide

theorem callTag_eq : callTag.toList = ['s', 'r', 'c', ':', 'f', 'u', 'n', 'c'] := by decide

theorem calleeName_pad {before name after : List Char} (hb : before.all isBlank = true)
    (ha : after.all isBlank = true) :
    calleeName (before ++ name ++ after) = calleeName name := by
  rw [calleeName, trim_pad hb ha, calleeName]

theorem calleeName_of_trimmed {name : List Char} (ht : trim name = name)
    (hm : ¬ methodSuffix <:+ name) : calleeName name = name := by
  simp [calleeName, ht, beforeEnd?_eq_none_iff.mpr hm]

/-- One method behind the name is left out. -/
theorem calleeName_append_method {name : List Char} (ht : trim name = name) (hne : name ≠ []) :
    calleeName (name ++ methodSuffix) = name := by
  have htrim : trim (name ++ methodSuffix) = name ++ methodSuffix := by
    have hlast : (name ++ methodSuffix).getLast? = some 'e' := by
      simp [methodSuffix_eq, List.getLast?_append]
    obtain ⟨c, rest, rfl⟩ := List.exists_cons_of_ne_nil hne
    exact trim_eq_self_of_ends rfl ((trim_eq_self_iff.mp ht).1 c rfl) hlast (by decide)
  simp [calleeName, htrim]

theorem argumentTexts_of_blank {inner : List Char} (h : inner.all isBlank = true) :
    argumentTexts (inner ++ [')']) = [] := by
  simp [argumentTexts, h]

theorem argumentTexts_of_not_blank {inner : List Char} (h : inner.all isBlank = false) :
    argumentTexts (inner ++ [')']) = (splitArguments 0 inner).map trim := by
  simp [argumentTexts, h]

theorem callParts?_append {before : List Char} (hp : '(' ∉ before)
    (hne : calleeName before ≠ []) (after : List Char) :
    callParts? (before ++ '(' :: after) = some (calleeName before, argumentTexts after) := by
  simp [callParts?, cut?_append hp, hne]

namespace Source

theorem ofTag?_tag (source : Source) : ofTag? source.tag = some source := by
  cases source <;> decide

theorem ofTag?_callTag : ofTag? callTag = none := by decide

theorem bar_not_mem_tag (source : Source) : '|' ∉ source.tag.toList := by
  cases source <;> decide

end Source

namespace Expression

section Arguments

variable {raw : List Char}

theorem argumentOf_of_not_mark (h : ¬ sourceMark <+: raw)
    (parsed : Except ExpressionError Expression) :
    argumentOf parsed raw = .literal (String.ofList raw) := by
  simp [argumentOf, afterStart?_eq_none_iff.mpr h]

theorem argumentOf_ok (h : sourceMark <+: raw) (e : Expression) :
    argumentOf (.ok e) raw = .nested e := by
  obtain ⟨rest, rfl⟩ := h
  simp [argumentOf]

theorem argumentOf_error (h : sourceMark <+: raw) (error : ExpressionError) :
    argumentOf (.error error) raw = .malformed (String.ofList raw) error := by
  obtain ⟨rest, rfl⟩ := h
  simp [argumentOf]

end Arguments

/-- What stands before the first bar decides how the rest is read. -/
theorem parseChars_append_bar {tag : List Char} (hbar : '|' ∉ tag) (locator : List Char) :
    parseChars (tag ++ '|' :: locator) =
      match Source.ofTag? (String.ofList tag) with
      | some source => .ok (.read source (String.ofList locator))
      | none =>
        if tag = callTag.toList then
          match callParts? locator with
          | none => .error (.malformedCall (String.ofList locator))
          | some (name, args) =>
            .ok (.call (String.ofList name) (args.map fun a => argumentOf (parseChars a) a))
        else .error (.unknownScheme (String.ofList tag)) := by
  rw [parseChars]
  split
  · rename_i hcut
    rw [cut?_append hbar] at hcut
    cases hcut
  · rename_i tag' locator' hcut
    rw [cut?_append hbar, Option.some.injEq, Prod.mk.injEq] at hcut
    obtain ⟨rfl, rfl⟩ := hcut
    cases Source.ofTag? (String.ofList tag) with
    | some source => rfl
    | none =>
      by_cases hc : tag = callTag.toList
      · simp only [if_pos hc]
        split
        · rename_i hparts
          rw [hparts]
        · rename_i name args hparts
          simp [hparts]
      · simp only [if_neg hc]

theorem parseChars_read (source : Source) (locator : List Char) :
    parseChars (source.tag.toList ++ '|' :: locator) =
      .ok (.read source (String.ofList locator)) := by
  rw [parseChars_append_bar source.bar_not_mem_tag, String.ofList_toList, source.ofTag?_tag]

theorem parseChars_call {locator name : List Char} {args : List (List Char)}
    (h : callParts? locator = some (name, args)) :
    parseChars (callTag.toList ++ '|' :: locator) =
      .ok (.call (String.ofList name) (args.map fun a => argumentOf (parseChars a) a)) := by
  have hbar : '|' ∉ callTag.toList := by decide
  rw [parseChars_append_bar hbar, String.ofList_toList, Source.ofTag?_callTag]
  simp only [↓reduceIte, h]

theorem parseChars_unknown {tag : List Char} (hbar : '|' ∉ tag)
    (hs : Source.ofTag? (String.ofList tag) = none) (hc : tag ≠ callTag.toList)
    (locator : List Char) :
    parseChars (tag ++ '|' :: locator) = .error (.unknownScheme (String.ofList tag)) := by
  rw [parseChars_append_bar hbar, hs]
  simp only [if_neg hc]

end Expression
end Template
end ApiMapping
