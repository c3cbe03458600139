import ApiMapping.Text.Basic

/-!
# Texts without blanks at their ends

A text that starts and ends with no white space is its own trim, and white space put
around a text does not change its trim.
-/

namespace ApiMapping
namespace Text

variable {before cs after : List Char}

theorem trimLeft_blank_append (h : before.all isBlank = true) (cs : List Char) :
    trimLeft (before ++ cs) = trimLeft cs :=
  List.dropWhile_append_of_pos (by simpa using h)

theorem trimRight_append_blank (h : after.all isBlank = true) :
    trimRight (cs ++ after) = trimRight cs := by
  have h' : ∀ c ∈ after.reverse, isBlank c = true := by simpa using h
  rw [trimRight, List.reverse_append, List.dropWhile_append_of_pos h', trimRight]

theorem trimLeft_of_all_blank (h : cs.all isBlank = true) : trimLeft cs = [] := by
  have hdrop := trimLeft_blank_append h []
  rwa [List.append_nil] at hdrop

theorem trim_of_all_blank (h : cs.all isBlank = true) : trim cs = [] := by
  rw [trim, trimLeft_of_all_blank h]
  rfl

/-- Once a character is not blank, nothing behind it is trimmed from the left. -/
theorem trimLeft_append_of_not_all_blank (h : cs.all isBlank = false) :
    trimLeft (cs ++ after) = trimLeft cs ++ after := by
  induction cs with
  | nil => simp at h
  | cons c rest ih =>
    by_cases hc : isBlank c = true
    · have hrest : rest.all isBlank = false := by simpa [hc] using h
      simpa [trimLeft, hc] using ih hrest
    · simp [trimLeft, hc]

/-- White space around a text does not count. -/
theorem trim_pad (hb : before.all isBlank = true) (ha : after.all isBlank = true) :
    trim (before ++ cs ++ after) = trim cs := by
  rw [List.append_assoc, trim, trimLeft_blank_append hb]
  cases hcs : cs.all isBlank with
  | true =>
    have hall : (cs ++ after).all isBlank = true := by simp [hcs, ha]
    rw [trimLeft_of_all_blank hall, trim_of_all_blank hcs]
    rfl
  | false => rw [trimLeft_append_of_not_all_blank hcs, trimRight_append_blank ha, trim]

theorem trimLeft_eq_self_iff :
    trimLeft cs = cs ↔ ∀ c ∈ cs.head?, isBlank c = false := by
  cases cs with
  | nil => simp [trimLeft]
  | cons c rest =>
    by_cases hc : isBlank c = true
    · have hlen := (List.dropWhile_sublist isBlank (l := rest)).length_le
      have hne : rest.dropWhile isBlank ≠ c :: rest := by
        intro he
        rw [he, List.length_cons] at hlen
        omega
      simpa [trimLeft, hc] using hne
    · simp [trimLeft, hc]

theorem trimRight_eq_self_iff :
    trimRight cs = cs ↔ ∀ c ∈ cs.getLast?, isBlank c = false := by
  rw [trimRight, List.reverse_eq_iff]
  change trimLeft cs.reverse = cs.reverse ↔ _
  rw [trimLeft_eq_self_iff, List.head?_reverse]

/-- What is its own trim starts and ends with no blank. -/
theorem trim_eq_self_iff :
    trim cs = cs ↔ (∀ c ∈ cs.head?, isBlank c = false) ∧ ∀ c ∈ cs.getLast?, isBlank c = false := by
  rw [← trimLeft_eq_self_iff, ← trimRight_eq_self_iff]
  constructor
  · intro h
    have hl : trimLeft cs = cs := by
      have h₁ := (List.dropWhile_sublist isBlank (l := cs)).length_le
      have h₂ := (List.dropWhile_sublist isBlank (l := (trimLeft cs).reverse)).length_le
      have h₃ := congrArg List.length h
      simp only [trim, trimRight, List.length_reverse] at h₂ h₃
      exact (List.dropWhile_sublist isBlank).eq_of_length (by rw [trimLeft] at h₂ h₃; omega)
    exact ⟨hl, by simpa [trim, hl] using h⟩
  · rintro ⟨hl, hr⟩
    rw [trim, hl, hr]

theorem trim_eq_self_of_ends {c d : Char} (hhead : cs.head? = some c) (hc : isBlank c = false)
    (hlast : cs.getLast? = some d) (hd : isBlank d = false) : trim cs = cs := by
  rw [trim_eq_self_iff, hhead, hlast]
  constructor
  · rintro c' ⟨⟩
    exact hc
  · rintro d' ⟨⟩
    exact hd

/-- A text is its trim with white space around it. -/
theorem exists_pad_trim (cs : List Char) :
    ∃ before after, before.all isBlank = true ∧ after.all isBlank = true ∧
      cs = before ++ trim cs ++ after := by
  refine ⟨cs.takeWhile isBlank, ((trimLeft cs).reverse.takeWhile isBlank).reverse,
    List.all_takeWhile, by rw [List.all_reverse, List.all_takeWhile], ?_⟩
  have hleft : cs.takeWhile isBlank ++ trimLeft cs = cs := List.takeWhile_append_dropWhile
  have hright : trim cs ++ ((trimLeft cs).reverse.takeWhile isBlank).reverse = trimLeft cs := by
    rw [trim, trimRight, ← List.reverse_append, List.takeWhile_append_dropWhile,
      List.reverse_reverse]
  rw [List.append_assoc, hright, hleft]

theorem trim_sublist (cs : List Char) : (trim cs).Sublist cs := by
  obtain ⟨lead, tail, _, _, hcs⟩ := exists_pad_trim cs
  have hmiddle := (List.sublist_append_right lead (trim cs)).trans (List.sublist_append_left _ tail)
  rwa [← hcs] at hmiddle

theorem trim_eq_nil_iff : trim cs = [] ↔ cs.all isBlank = true := by
  constructor
  · intro h
    obtain ⟨before, after, hb, ha, hcs⟩ := exists_pad_trim cs
    rw [hcs, h, List.append_nil, List.all_append, hb, ha, Bool.and_self]
  · exact trim_of_all_blank

theorem trim_trim (cs : List Char) : trim (trim cs) = trim cs := by
  obtain ⟨before, after, hb, ha, hcs⟩ := exists_pad_trim cs
  have hpad := @trim_pad before (trim cs) after hb ha
  rw [← hcs] at hpad
  exact hpad.symm

/-- White space at the end is kept once something else follows it. -/
theorem exists_trim_append (cs : List Char) :
    ∃ blanks, blanks.all isBlank = true ∧ ∀ c after, isBlank c = false →
      after.all isBlank = true → trim (cs ++ c :: after) = trim cs ++ (blanks ++ [c]) := by
  obtain ⟨lead, tail, hlead, htail, hcs⟩ := exists_pad_trim cs
  cases htrim : trim cs with
  | nil =>
    refine ⟨[], rfl, ?_⟩
    intro c after hc hafter
    have hpad := @trim_pad cs [c] after (trim_eq_nil_iff.mp htrim) hafter
    rw [List.append_assoc, List.singleton_append] at hpad
    rw [hpad, List.nil_append, List.nil_append]
    exact trim_eq_self_of_ends rfl hc rfl hc
  | cons d rest =>
    refine ⟨tail, htail, ?_⟩
    intro c after hc hafter
    have hd := (trim_eq_self_iff.mp (trim_trim cs)).1 d (by rw [htrim]; rfl)
    have hends : trim (d :: rest ++ (tail ++ [c])) = d :: rest ++ (tail ++ [c]) :=
      trim_eq_self_of_ends rfl hd (by rw [← List.append_assoc, List.getLast?_concat]) hc
    have hpad := @trim_pad lead (d :: rest ++ (tail ++ [c])) after hlead hafter
    rw [hends] at hpad
    rw [← hpad, hcs, htrim]
    simp

end Text
end ApiMapping
