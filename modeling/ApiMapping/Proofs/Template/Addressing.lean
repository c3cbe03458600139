import ApiMapping.Proofs.Json.Positions
import ApiMapping.Proofs.Text.Numeral
import ApiMapping.Proofs.Text.Trim
import ApiMapping.Template.Locator

/-!
# Locators for every value of a document

Any path through a document can be written as a locator, whatever characters its names are
made of: a backslash in front takes the meaning from every character, and brackets hold the
two names that have no other spelling. And a locator selects nothing but what lies at the end
of some path, or the length of an array there.
-/

namespace ApiMapping
namespace Template

variable {v w : Json}

/-! ## Following steps -/

theorem follow_cons_of_ne_count {s : Segment} (h : s ≠ .count) (rest : List Segment) (v : Json) :
    follow (s :: rest) v = s.step? v >>= follow rest := by
  cases s with
  | count => exact absurd rfl h
  | key k => rfl
  | index i => rfl

/-- A step leads to what one key of a path leads to. -/
theorem exists_key_of_step? {s : Segment} (h : s.step? v = some w) :
    ∃ key : Json.Key, key.into? v = some w := by
  unfold Segment.step? at h
  split at h
  · rename_i k members
    exact ⟨.name k, h⟩
  · rename_i k items
    obtain ⟨i, -, hi⟩ := Option.bind_eq_some_iff.mp h
    exact ⟨.index i, hi⟩
  · rename_i i items
    exact ⟨.index i, h⟩
  · cases h

/-- Whatever steps lead to is at the end of a path, or the length of what is there. -/
theorem exists_path_of_follow {segments : List Segment} (h : follow segments v = some w) :
    ∃ path, v.along? path = some w ∨
      ∃ items, v.along? path = some (.array items) ∧ w = Json.ofNat items.length := by
  induction segments generalizing v with
  | nil => exact ⟨[], .inl h⟩
  | cons s rest ih =>
    unfold follow at h
    split at h
    · rename_i heq
      cases heq
    · rename_i items heq
      exact ⟨[], .inr ⟨items, rfl, (Option.some.inj h).symm⟩⟩
    · rename_i heq _
      cases heq
      obtain ⟨u, hu, hrest⟩ := Option.bind_eq_some_iff.mp h
      obtain ⟨key, hkey⟩ := exists_key_of_step? hu
      obtain ⟨path, hpath⟩ := ih hrest
      refine ⟨key :: path, hpath.imp ?_ ?_⟩
      · intro hw
        exact Json.along?_cons_eq_some_iff.mpr ⟨u, hkey, hw⟩
      · rintro ⟨items, hitems, hw⟩
        exact ⟨items, Json.along?_cons_eq_some_iff.mpr ⟨u, hkey, hitems⟩, hw⟩

namespace Locator

/-! ## Scanning what was written for a key -/

/-- The name with every character protected from being read as a sign. -/
def escaped (k : String) : List Char := k.toList.flatMap fun c => ['\\', c]

/-- The texts for a key of a path. A number stands in brackets or before a dot. -/
inductive KeySpelling : Json.Key → List Char → Prop
  | emptyName : KeySpelling (.name "") ['[', ']']
  | countName : KeySpelling (.name "#") ['[', '#', ']']
  | name {k : String} : k ≠ "" → k ≠ "#" → KeySpelling (.name k) (escaped k ++ ['.'])
  | bracketed (i : Nat) : KeySpelling (.index i) ('[' :: Text.ofNat i ++ [']'])
  | dotted (i : Nat) : KeySpelling (.index i) (Text.ofNat i ++ ['.'])

/-- The texts for a path, one behind the other. -/
inductive Spelling : List Json.Key → List Char → Prop
  | nil : Spelling [] []
  | cons {key : Json.Key} {path : List Json.Key} {cs rest : List Char} :
    KeySpelling key cs → Spelling path rest → Spelling (key :: path) (cs ++ rest)

theorem flush_reverse {cs : List Char} (hempty : cs ≠ []) (hcount : cs ≠ ['#']) :
    flush cs.reverse = [.key (String.ofList cs)] := by
  unfold flush
  split
  · rename_i h
    exact absurd (List.reverse_eq_nil_iff.mp h) hempty
  · rename_i h
    exact absurd (by simpa using congrArg List.reverse h) hcount
  · rw [List.reverse_reverse]

theorem scan_escaped (cs current rest : List Char) :
    scan current (cs.flatMap (fun c => ['\\', c]) ++ rest) = scan (cs.reverse ++ current) rest := by
  induction cs generalizing current with
  | nil => rfl
  | cons c cs ih =>
    change scan (c :: current) (cs.flatMap (fun c => ['\\', c]) ++ rest) = _
    rw [ih, List.reverse_cons, List.append_assoc]
    rfl

/-- Characters that are no signs are part of the name. -/
theorem scan_plain {cs : List Char} (h : ∀ c ∈ cs, c ≠ '\\' ∧ c ≠ '.' ∧ c ≠ '[')
    (current rest : List Char) : scan current (cs ++ rest) = scan (cs.reverse ++ current) rest := by
  induction cs generalizing current with
  | nil => rfl
  | cons c cs ih =>
    obtain ⟨⟨hescape, hdot, hbracket⟩, hcs⟩ := List.forall_mem_cons.mp h
    rw [List.cons_append, scan.eq_6 _ _ _ (by simp_all) (by simp_all) (by simp_all) (by simp_all),
      ih hcs, List.reverse_cons, List.append_assoc]
    rfl

theorem scanBracket_plain {cs : List Char} (h : ']' ∉ cs) (inner rest : List Char) :
    scanBracket inner (cs ++ rest) = scanBracket (cs.reverse ++ inner) rest := by
  induction cs generalizing inner with
  | nil => rfl
  | cons c cs ih =>
    rw [List.mem_cons, not_or] at h
    rw [List.cons_append, scanBracket.eq_3 _ _ _ (Ne.symm h.1), ih h.2, List.reverse_cons,
      List.append_assoc]
    rfl

theorem bracketed_ne_count (inner : List Char) : bracketed inner ≠ .count := by
  unfold bracketed
  split <;> exact Segment.noConfusion

theorem isBlank_of_mem_ofNat {i : Nat} {c : Char} (h : c ∈ Text.ofNat i) :
    Text.isBlank c = false := by
  have hdigit : 48 ≤ c.toNat ∧ c.toNat ≤ 57 :=
    Char.isDigit_iff_toNat.mp (Text.isDigit_of_mem_ofNat h)
  simp only [Text.isBlank, Text.inRanges, Text.blankRanges, List.any_cons, List.any_nil,
    Bool.or_false, Bool.or_eq_false_iff, Bool.and_eq_false_iff, decide_eq_false_iff_not]
  omega

theorem trim_ofNat (i : Nat) : Text.trim (Text.ofNat i) = Text.ofNat i := by
  rw [Text.trim_eq_self_iff]
  constructor
  · intro c hc
    exact isBlank_of_mem_ofNat (List.mem_of_mem_head? hc)
  · intro c hc
    exact isBlank_of_mem_ofNat (List.mem_of_mem_getLast? hc)

theorem index?_ofNat {i : Nat} (h : i < UInt64.size) : index? (Text.ofNat i) = some i :=
  Text.unsigned?_ofNat h

theorem mem_ofNat_ne {i : Nat} {c d : Char} (h : c ∈ Text.ofNat i) (hd : d.isDigit = false) :
    c ≠ d := by
  rintro rfl
  exact Bool.false_ne_true (hd.symm.trans (Text.isDigit_of_mem_ofNat h))

theorem scan_escaped_name {k : String} (hempty : k ≠ "") (hcount : k ≠ "#") (rest : List Char) :
    scan [] (escaped k ++ ['.'] ++ rest) = .key k :: scan [] rest := by
  have hne : k.toList ≠ [] := fun he => hempty (String.toList_eq_nil_iff.mp he)
  have hsign : k.toList ≠ ['#'] := by
    intro he
    exact hcount (String.toList_injective he)
  rw [List.append_assoc, escaped, scan_escaped, List.append_nil, List.singleton_append,
    scan.eq_4, flush_reverse hne hsign, String.ofList_toList]
  rfl

theorem scan_bracketed_ofNat (i : Nat) (rest : List Char) :
    scan [] ('[' :: Text.ofNat i ++ [']'] ++ rest) =
      bracketed (Text.ofNat i).reverse :: scan [] rest := by
  have hclose : ']' ∉ Text.ofNat i := fun hmem => mem_ofNat_ne hmem (by decide) rfl
  have hscan := scanBracket_plain hclose [] (']' :: rest)
  rw [List.append_nil, scanBracket.eq_2] at hscan
  rw [List.append_assoc, List.cons_append, scan.eq_5, List.singleton_append, hscan]
  rfl

theorem scan_dotted_ofNat (i : Nat) (rest : List Char) :
    scan [] (Text.ofNat i ++ ['.'] ++ rest) =
      .key (String.ofList (Text.ofNat i)) :: scan [] rest := by
  have hplain : ∀ c ∈ Text.ofNat i, c ≠ '\\' ∧ c ≠ '.' ∧ c ≠ '[' := fun c hc =>
    ⟨mem_ofNat_ne hc (by decide), mem_ofNat_ne hc (by decide), mem_ofNat_ne hc (by decide)⟩
  have hsign : Text.ofNat i ≠ ['#'] := by
    intro he
    exact mem_ofNat_ne (i := i) (c := '#') (by simp [he]) (by decide) rfl
  rw [List.append_assoc, scan_plain hplain, List.append_nil, List.singleton_append, scan.eq_4,
    flush_reverse (Text.ofNat_ne_nil i) hsign]
  rfl

theorem step?_of_into?_name {k : String} (h : (Json.Key.name k).into? v = some w) :
    (Segment.key k).step? v = some w := by
  obtain ⟨members, rfl, hmember⟩ := Json.into?_name_eq_some_iff.mp h
  exact hmember

theorem step?_bracketed_of_into? {i : Nat} (hi : i < UInt64.size)
    (h : (Json.Key.index i).into? v = some w) :
    (bracketed (Text.ofNat i).reverse).step? v = some w := by
  obtain ⟨items, rfl, hitem⟩ := Json.into?_index_eq_some_iff.mp h
  rw [bracketed, List.reverse_reverse, trim_ofNat, index?_ofNat hi]
  exact hitem

/-- Digits are a key that stands for an item of an array. -/
theorem step?_digits_of_into? {i : Nat} (hi : i < UInt64.size)
    (h : (Json.Key.index i).into? v = some w) :
    (Segment.key (String.ofList (Text.ofNat i))).step? v = some w := by
  obtain ⟨items, rfl, hitem⟩ := Json.into?_index_eq_some_iff.mp h
  rw [Segment.step?, String.toList_ofList, index?_ofNat hi]
  exact hitem

/-- What was written for a key is scanned as one step, whatever follows it. -/
theorem KeySpelling.exists_segment {key : Json.Key} {cs : List Char} (h : KeySpelling key cs) :
    ∃ s : Segment, s ≠ .count ∧ (∀ rest, scan [] (cs ++ rest) = s :: scan [] rest) ∧
      ∀ v w, (∀ i, key = .index i → i < UInt64.size) → key.into? v = some w →
        s.step? v = some w := by
  cases h with
  | emptyName =>
    exact ⟨.key "", by simp, fun _ => rfl, fun _ _ _ hw => step?_of_into?_name hw⟩
  | countName =>
    exact ⟨.key "#", by simp, fun _ => rfl, fun _ _ _ hw => step?_of_into?_name hw⟩
  | @name k hempty hcount =>
    exact ⟨.key k, by simp, scan_escaped_name hempty hcount,
      fun _ _ _ hw => step?_of_into?_name hw⟩
  | bracketed i =>
    exact ⟨_, bracketed_ne_count _, scan_bracketed_ofNat i,
      fun _ _ hi hw => step?_bracketed_of_into? (hi i rfl) hw⟩
  | dotted i =>
    exact ⟨_, by simp, scan_dotted_ofNat i,
      fun _ _ hi hw => step?_digits_of_into? (hi i rfl) hw⟩

/-- Scanned step by step, a written path leads where the path leads. -/
theorem Spelling.follow {path : List Json.Key} {cs : List Char} (h : Spelling path cs)
    (hsize : ∀ i, .index i ∈ path → i < UInt64.size) (hw : v.along? path = some w) :
    follow (scan [] cs) v = some w := by
  induction h generalizing v with
  | nil => exact hw
  | @cons key path cs rest hkey _ ih =>
    obtain ⟨s, hcount, hscan, hstep⟩ := hkey.exists_segment
    obtain ⟨u, hu, hrest⟩ := Json.along?_cons_eq_some_iff.mp hw
    have hbelow : ∀ i, .index i ∈ path → i < UInt64.size :=
      fun i hi => hsize i (List.mem_cons_of_mem _ hi)
    have hhere : s.step? v = some u :=
      hstep v u (fun i hi => hsize i (hi ▸ List.mem_cons_self)) hu
    rw [hscan, follow_cons_of_ne_count hcount, hhere]
    exact ih hbelow hrest

/-! ## What surrounds a locator -/

/-- The first and the last character are no blanks, and the first is not the root. -/
def Bare (cs : List Char) : Prop :=
  (∀ c ∈ cs.head?, Text.isBlank c = false ∧ c ≠ '$') ∧ ∀ d ∈ cs.getLast?, Text.isBlank d = false

theorem Bare.append {cs rest : List Char} (h : Bare cs) (hrest : Bare rest) :
    Bare (cs ++ rest) := by
  constructor
  · intro c hc
    rw [List.head?_append, Option.mem_def, Option.or_eq_some_iff] at hc
    rcases hc with hc | ⟨-, hc⟩
    · exact h.1 c hc
    · exact hrest.1 c hc
  · intro d hd
    rw [List.getLast?_append, Option.mem_def, Option.or_eq_some_iff] at hd
    rcases hd with hd | ⟨-, hd⟩
    · exact hrest.2 d hd
    · exact h.2 d hd

theorem Bare.of_ends {cs : List Char} {c d : Char} (hhead : cs.head? = some c)
    (hc : Text.isBlank c = false ∧ c ≠ '$') (hlast : cs.getLast? = some d)
    (hd : Text.isBlank d = false) : Bare cs := by
  constructor
  · intro c' hc'
    rw [hhead, Option.mem_some] at hc'
    exact hc' ▸ hc
  · intro d' hd'
    rw [hlast, Option.mem_some] at hd'
    exact hd' ▸ hd

theorem KeySpelling.bare {key : Json.Key} {cs : List Char} (h : KeySpelling key cs) : Bare cs := by
  cases h with
  | emptyName => exact .of_ends rfl (by decide) rfl (by decide)
  | countName => exact .of_ends rfl (by decide) rfl (by decide)
  | @name k hempty _ =>
    obtain ⟨c, rest, hk⟩ := List.exists_cons_of_ne_nil fun he =>
      hempty (String.toList_eq_nil_iff.mp he)
    have hhead : (escaped k ++ ['.']).head? = some '\\' := by rw [escaped, hk]; rfl
    exact .of_ends hhead (by decide) List.getLast?_concat (by decide)
  | bracketed i =>
    exact .of_ends (c := '[') rfl (by decide) List.getLast?_concat (by decide)
  | dotted i =>
    obtain ⟨c, rest, hi⟩ := List.exists_cons_of_ne_nil (Text.ofNat_ne_nil i)
    have hmem : c ∈ Text.ofNat i := by simp [hi]
    have hhead : (Text.ofNat i ++ ['.']).head? = some c := by rw [hi]; rfl
    exact .of_ends hhead ⟨isBlank_of_mem_ofNat hmem, mem_ofNat_ne hmem (by decide)⟩
      List.getLast?_concat (by decide)

theorem Spelling.bare {path : List Json.Key} {cs : List Char} (h : Spelling path cs) : Bare cs := by
  induction h with
  | nil => exact ⟨by simp, by simp⟩
  | cons hkey _ ih => exact hkey.bare.append ih

theorem body_of_bare {cs : List Char} (h : Bare cs) : body cs = cs := by
  have htrim : Text.trim cs = cs :=
    Text.trim_eq_self_iff.mpr ⟨fun c hc => (h.1 c hc).1, h.2⟩
  have hroot (start : List Char) : Text.afterStart? ('$' :: start) cs = none := by
    cases cs with
    | nil => rfl
    | cons c rest => rw [Text.afterStart?, if_neg (h.1 c rfl).2.symm]
  rw [body, htrim, hroot, Option.getD_none, hroot, Option.getD_none]

end Locator

/-- Locators reach all that a document holds, and nothing that it does not hold. -/
structure Addressed (document : Json) : Prop where
  /-- Every spelling of a path selects exactly the value at the end of the path. -/
  reached : ∀ path locator v, Locator.Spelling path locator →
    (∀ i, .index i ∈ path → i < UInt64.size) → document.along? path = some v →
    select document (String.ofList locator) = some v
  /-- What any text selects is a value of the document or the length of one of its arrays. -/
  held : ∀ locator v, select document locator = some v →
    ∃ path, document.along? path = some v ∨
      ∃ items, document.along? path = some (.array items) ∧ v = Json.ofNat items.length

theorem addressed_select (document : Json) : Addressed document where
  reached path locator v hspelling hsize hv := by
    rw [select, Locator.segments, String.toList_ofList, Locator.body_of_bare hspelling.bare]
    exact hspelling.follow hsize hv
  held locator v hv := exists_path_of_follow hv

end Template
end ApiMapping
