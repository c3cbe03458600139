import ApiMapping.Text.Basic
import ApiMapping.Text.LetterTable
import ApiMapping.Text.SigmaTable

/-!
# Upper and lower case

Case is changed letter by letter, and a letter may become several. The one letter
whose other form depends on its neighbours is the capital sigma.
-/

namespace ApiMapping
namespace Text

namespace LetterRun

def holds (r : LetterRun) (n : Nat) : Bool :=
  r.first ≤ n && n ≤ r.last && (n - r.first) % r.stride == 0

end LetterRun

def shifted (runs : List LetterRun) (n : Nat) : Nat :=
  match runs.find? (·.holds n) with
  | some r => (n + r.shift).toNat
  | none => n

/-- The other case of a letter, and the letter itself if it has none. -/
def otherCase (runs : List LetterRun) (expansions : List (Nat × List Nat)) (c : Char) :
    List Char :=
  match expansions.lookup c.toNat with
  | some ns => ns.map Char.ofNat
  | none => [Char.ofNat (shifted runs c.toNat)]

def upperLetter (c : Char) : List Char :=
  if c.toNat < 0x80 then [c.toUpper] else otherCase upperRuns upperExpansions c

def lowerLetter (c : Char) : List Char :=
  if c.toNat < 0x80 then [c.toLower] else otherCase lowerRuns lowerExpansions c

/-- The first letter that case does not ignore is one that has case. -/
def meetsCased (cs : List Char) : Bool :=
  match cs.dropWhile (inRanges caseIgnorableRanges) with
  | [] => false
  | c :: _ => inRanges casedRanges c

/-- Lower case of the rest of a text; `before` holds what was passed, nearest first. -/
def lowerAfter (before : List Char) : List Char → List Char
  | [] => []
  | c :: rest =>
    let here :=
      if c = 'Σ' then
        if meetsCased before && !meetsCased rest then ['ς'] else ['σ']
      else lowerLetter c
    here ++ lowerAfter (c :: before) rest

def upper (s : String) : String := String.ofList (s.toList.flatMap upperLetter)

def lower (s : String) : String := String.ofList (lowerAfter [] s.toList)

/-- Equal up to the case of ASCII letters. -/
def eqIgnoringAsciiCase (s t : String) : Bool :=
  s.toList.map Char.toLower == t.toList.map Char.toLower

theorem upperLetter_ascii {c : Char} (h : c.toNat < 0x80) : upperLetter c = [c.toUpper] := by
  simp [upperLetter, h]

theorem lowerLetter_ascii {c : Char} (h : c.toNat < 0x80) : lowerLetter c = [c.toLower] := by
  simp [lowerLetter, h]

@[simp] theorem eqIgnoringAsciiCase_refl (s : String) : eqIgnoringAsciiCase s s = true := by
  simp [eqIgnoringAsciiCase]

end Text
end ApiMapping
