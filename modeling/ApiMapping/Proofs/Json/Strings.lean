import ApiMapping.Json.Basic
import ApiMapping.Json.Reader
import ApiMapping.Proofs.Document.Values

/-!
# Strings in JSON text

Every character is read back from its escape, so a string is read up to the quote that closes
it.
-/

namespace ApiMapping
namespace Json

open Document

/-- The part of a string that the escape of a character is taken as. -/
inductive PartFor (c : Char) : StringPart → Prop
  | letter : PartFor c (.letter c)
  | code (control : c.toNat < 0x20) : PartFor c (.code c.toNat)

/-- A character is escaped by one letter, by its number, or not at all. -/
theorem escape_cases (c : Char) :
    (∃ e, escape c = ['\\', e] ∧ unescape? e = some c) ∨
      (c.toNat < 0x20 ∧
        escape c = ['\\', 'u', '0', '0', hexDigit (c.toNat / 16), hexDigit c.toNat]) ∨
      (c ≠ '"' ∧ c ≠ '\\' ∧ ¬ c.toNat < 0x20 ∧ escape c = [c]) := by
  unfold escape
  split_ifs with hquote hbackslash h h h h h hcontrol
  all_goals try (subst c; exact .inl ⟨_, rfl, rfl⟩)
  · exact .inr (.inl ⟨hcontrol, rfl⟩)
  · exact .inr (.inr ⟨hquote, hbackslash, hcontrol, rfl⟩)

theorem stringParts_unescape {e c : Char} (h : unescape? e = some c) (rest : List Char) :
    stringParts ('\\' :: e :: rest) = (.letter c :: (stringParts rest).1, (stringParts rest).2) := by
  rw [stringParts.eq_def]
  split <;> rename_i heq <;> cases heq
  · cases h
  · cases h
  · rw [h]
  · rename_i hnot
    exact (hnot _ _ rfl rfl).elim

theorem hexCode?_hexDigit {n : Nat} (h : n < 0x20) :
    hexCode? '0' '0' (hexDigit (n / 16)) (hexDigit n) = some n := by
  revert n
  decide

theorem stringParts_letter {c : Char} (hquote : c ≠ '"') (hbackslash : c ≠ '\\')
    (hspace : ¬ c.toNat < 0x20) (rest : List Char) :
    stringParts (c :: rest) = (.letter c :: (stringParts rest).1, (stringParts rest).2) := by
  rw [stringParts.eq_def]
  split <;> rename_i heq <;> cases heq
  case h_7.refl => rw [if_neg hspace]
  all_goals first | exact absurd rfl hquote | exact absurd rfl hbackslash

theorem stringParts_escape (c : Char) (rest : List Char) : ∃ part, PartFor c part ∧
    stringParts (escape c ++ rest) = (part :: (stringParts rest).1, (stringParts rest).2) := by
  rcases escape_cases c with ⟨e, hescape, he⟩ | ⟨hcontrol, hescape⟩ |
    ⟨hquote, hbackslash, hspace, hescape⟩
  · exact ⟨_, .letter, by rw [hescape]; exact stringParts_unescape he rest⟩
  · refine ⟨_, .code hcontrol, ?_⟩
    rw [hescape]
    simp [stringParts, hexCode?_hexDigit hcontrol]
  · exact ⟨_, .letter, by rw [hescape]; exact stringParts_letter hquote hbackslash hspace rest⟩

theorem joinParts_code {n : Nat} (h : n < 0x20) (f : Fault) (rest : List StringPart) :
    joinParts f (.code n :: rest) = (Char.ofNat n :: ·) <$> joinParts f rest := by
  have hhigh : isHighSurrogate n = false := by
    simp [isHighSurrogate]
    omega
  have hlow : isLowSurrogate n = false := by
    simp [isLowSurrogate]
    omega
  rcases rest with _ | ⟨c | m, rest⟩
  · simp [joinParts, hhigh, hlow]
  · simp [joinParts, hhigh, hlow]
  · simp [joinParts, hhigh, hlow]

theorem joinParts_partFor {c : Char} {part : StringPart} (h : PartFor c part) (f : Fault)
    (rest : List StringPart) : joinParts f (part :: rest) = (c :: ·) <$> joinParts f rest := by
  cases h with
  | letter => rw [joinParts]
  | code control => rw [joinParts_code control, Char.ofNat_toNat]

theorem stringParts_flatMap_escape (cs rest : List Char) (f : Fault) : ∃ parts,
    stringParts (cs.flatMap escape ++ '"' :: rest) = (parts, .ok rest) ∧
      joinParts f parts = .ok cs := by
  induction cs with
  | nil => exact ⟨[], rfl, rfl⟩
  | cons c cs ih =>
    obtain ⟨parts, hparts, hjoin⟩ := ih
    obtain ⟨part, hpart, hescape⟩ := stringParts_escape c (cs.flatMap escape ++ '"' :: rest)
    refine ⟨part :: parts, ?_, ?_⟩
    · rw [List.flatMap_cons, List.append_assoc, hescape, hparts]
    · rw [joinParts_partFor hpart, hjoin]
      rfl

/-- A string is read as it was written, from behind its opening quote. -/
theorem readString_escaped (s : String) (rest : List Char) :
    readString (s.toList.flatMap escape ++ '"' :: rest) = .scalar (.text s) rest := by
  obtain ⟨parts, hparts, hjoin⟩ := stringParts_flatMap_escape s.toList rest .malformed
  rw [readString, hparts]
  dsimp only
  rw [hjoin]
  dsimp only
  rw [String.ofList_toList]

/-- Strings have no type to be found. -/
theorem fits_readString {room : Nat} (cs : List Char) : (readString cs).node.Fits room := by
  unfold readString
  split
  · split <;> exact .scalar trivial
  · split <;> exact .stopped

end Json
end ApiMapping
