/-!
# Parts of a text

White space is taken off at the ends of a text. A text is cut at a character or split at every
occurrence of it, and no character but the separators is lost.
-/

namespace ApiMapping
namespace Text

/-! ## White space

The white space of Unicode, and texts without it at their ends. The zero-width
space U+200B is not among it.
-/

/-- White space, as closed ranges of code points. -/
def blankRanges : List (Nat × Nat) :=
  [(0x09, 0x0D), (0x20, 0x20), (0x85, 0x85), (0xA0, 0xA0), (0x1680, 0x1680), (0x2000, 0x200A),
   (0x2028, 0x2029), (0x202F, 0x202F), (0x205F, 0x205F), (0x3000, 0x3000)]

def inRanges (ranges : List (Nat × Nat)) (c : Char) : Bool :=
  ranges.any fun r => r.1 ≤ c.toNat && c.toNat ≤ r.2

def isBlank (c : Char) : Bool := inRanges blankRanges c

def trimLeft (cs : List Char) : List Char := cs.dropWhile isBlank

def trimRight (cs : List Char) : List Char := (cs.reverse.dropWhile isBlank).reverse

/-- The text without the white space at its two ends. -/
def trim (cs : List Char) : List Char := trimRight (trimLeft cs)

/-- Nothing but white space, or nothing at all. -/
def isBlankText (s : String) : Bool := s.toList.all isBlank

@[simp] theorem trim_nil : trim [] = [] := rfl

/-! ## Cutting

`cut?` takes the two sides of the first occurrence, `pieces` everything between
the occurrences. No character but the separators is lost.
-/

/-- What stands before the first `sep` and what stands after it. -/
def cut? (sep : Char) : List Char → Option (List Char × List Char)
  | [] => none
  | c :: rest =>
    if c = sep then some ([], rest)
    else (cut? sep rest).map fun (before, after) => (c :: before, after)

/-- Put a character in front of the first piece. -/
def consPiece (c : Char) : List (List Char) → List (List Char)
  | [] => [[c]]
  | p :: ps => (c :: p) :: ps

/-- The pieces between the separators, one more than there are separators. -/
def pieces (sep : Char) : List Char → List (List Char)
  | [] => [[]]
  | c :: rest => if c = sep then [] :: pieces sep rest else consPiece c (pieces sep rest)

/-- What follows `start`, if the text starts with it. -/
def afterStart? : List Char → List Char → Option (List Char)
  | [], cs => some cs
  | _ :: _, [] => none
  | s :: start, c :: cs => if s = c then afterStart? start cs else none

/-- What comes before `tail`, if the text ends with it. -/
def beforeEnd? (tail cs : List Char) : Option (List Char) :=
  (afterStart? tail.reverse cs.reverse).map List.reverse

theorem cut?_eq_some {sep : Char} {cs before after : List Char}
    (h : cut? sep cs = some (before, after)) : cs = before ++ sep :: after ∧ sep ∉ before := by
  induction cs generalizing before with
  | nil => simp [cut?] at h
  | cons c rest ih =>
    unfold cut? at h
    split at h
    · rename_i hc
      simp only [Option.some.injEq, Prod.mk.injEq] at h
      obtain ⟨rfl, rfl⟩ := h
      simp [hc]
    · rename_i hc
      obtain ⟨⟨b, a⟩, hb, he⟩ := Option.map_eq_some_iff.1 h
      simp only [Prod.mk.injEq] at he
      obtain ⟨rfl, rfl⟩ := he
      obtain ⟨rfl, hn⟩ := ih hb
      exact ⟨rfl, by simpa [hn] using fun e => hc e.symm⟩

theorem cut?_append {sep : Char} {before : List Char} (h : sep ∉ before) (after : List Char) :
    cut? sep (before ++ sep :: after) = some (before, after) := by
  induction before with
  | nil => simp [cut?]
  | cons c rest ih =>
    simp only [List.mem_cons, not_or] at h
    simp [cut?, ih h.2, Ne.symm h.1]

theorem cut?_eq_none_iff {sep : Char} {cs : List Char} : cut? sep cs = none ↔ sep ∉ cs := by
  induction cs with
  | nil => simp [cut?]
  | cons c rest ih =>
    unfold cut?
    split
    · rename_i hc; simp [hc]
    · rename_i hc
      simp [ih, Ne.symm hc]

@[simp] theorem afterStart?_append (start cs : List Char) :
    afterStart? start (start ++ cs) = some cs := by
  induction start with
  | nil => rfl
  | cons s start ih => simp [afterStart?, ih]

@[simp] theorem beforeEnd?_append (tail cs : List Char) :
    beforeEnd? tail (cs ++ tail) = some cs := by
  simp [beforeEnd?]

end Text
end ApiMapping
