import ApiMapping.Proofs.Json.Numbers
import ApiMapping.Proofs.Json.Strings

/-!
# Values in JSON text

The text of a value is read as the document of that value, with its members in their order and
its scalars as they were, numbers apart: a number is read as what its own text is read as.
Whatever text is read, what is nested too deeply is marked.
-/

namespace ApiMapping

/-- The text of the one number is read as the other. -/
def Number.Binary64.ReadAs (x y : Binary64) : Prop :=
  Json.ofText (Json.number (.real x)).text = .ok (.number (.real y))

namespace Json

open Document

def RealReadAs (f : Number.Binary64 → Number.Binary64) : Json → Prop
  | .number (.real x) => x.ReadAs (f x)
  | _ => True

/-- Every binary number in the value is read as the function says. -/
def RealsReadAs (f : Number.Binary64 → Number.Binary64) : Json → Prop := Everywhere (RealReadAs f)

/-- A text that may be so deep can spell the value, and numbers are read as the function says. -/
structure Legible (f : Number.Binary64 → Number.Binary64) (room : Nat) (v : Json) : Prop where
  spellable : v.Spellable room
  reals : v.RealsReadAs f

section Legible

variable {f : Number.Binary64 → Number.Binary64} {room : Nat} {v : Json}

@[simp] theorem realsReadAs_null : Json.null.RealsReadAs f := (everywhere_of_isLeaf rfl).mpr trivial

@[simp] theorem realsReadAs_bool (b : Bool) : (Json.bool b).RealsReadAs f :=
  (everywhere_of_isLeaf rfl).mpr trivial

@[simp] theorem realsReadAs_string (s : String) : (Json.string s).RealsReadAs f :=
  (everywhere_of_isLeaf rfl).mpr trivial

@[simp] theorem realsReadAs_ofNat (n : Nat) : (Json.ofNat n).RealsReadAs f :=
  (everywhere_of_isLeaf rfl).mpr trivial

theorem realsReadAs_real {x : Number.Binary64} :
    (Json.number (.real x)).RealsReadAs f ↔ x.ReadAs (f x) := everywhere_of_isLeaf rfl

@[simp] theorem realsReadAs_array {items : List Json} :
    (Json.array items).RealsReadAs f ↔ ∀ v ∈ items, v.RealsReadAs f :=
  everywhere_array.trans (and_iff_right trivial)

@[simp] theorem realsReadAs_object {members : List (String × Json)} :
    (Json.object members).RealsReadAs f ↔ ∀ m ∈ members, m.2.RealsReadAs f :=
  everywhere_object.trans (and_iff_right trivial)

theorem Legible.number (h : v.Legible f room) (hleaf : v.isLeaf = true) :
    v.NumberProper ∧ v.RealReadAs f :=
  ⟨(everywhere_of_isLeaf hleaf).mp h.spellable.numbers, (everywhere_of_isLeaf hleaf).mp h.reals⟩

theorem Legible.item {items : List Json} (h : (Json.array items).Legible f (room + 1)) :
    ∀ v ∈ items, v.Legible f room :=
  fun v hv => ⟨spellable_array.mp h.spellable v hv, realsReadAs_array.mp h.reals v hv⟩

theorem Legible.member {members : List (String × Json)}
    (h : (Json.object members).Legible f (room + 1)) : ∀ m ∈ members, m.2.Legible f room :=
  fun m hm => ⟨spellable_object.mp h.spellable m hm, realsReadAs_object.mp h.reals m hm⟩

end Legible

/-! ## What is read -/

section Fits

variable {room : Nat}

theorem fits_readWord {s : Scalar} (hs : s.Proper) (word cs : List Char) :
    (readWord s word cs).node.Fits room := by
  induction word generalizing cs with
  | nil => exact .scalar hs
  | cons w word ih =>
    cases cs with
    | nil => exact .stopped
    | cons c cs =>
      rw [readWord]
      split
      · exact ih cs
      · exact .stopped

theorem fits_readScalar (cs : List Char) : (readScalar cs).node.Fits room := by
  unfold readScalar
  split
  · exact .stopped
  · exact fits_readString _
  · exact fits_readWord (by trivial) _ _
  · exact fits_readWord (by trivial) _ _
  · exact fits_readWord (by trivial) _ _
  · exact fits_readNumber _ _
  · split
    · exact fits_readNumber _ _
    · exact .stopped

theorem fits_atDepth_sequence {items : List Node} (h : ∀ item ∈ items, item.Fits (room - 1))
    (ending : Ending) : (atDepth room (.sequence true items ending)).Fits room := by
  cases room with
  | zero => exact .deep
  | succ room => exact .sequence h

theorem fits_atDepth_mapping {members : List (Node × Node)}
    (h : ∀ m ∈ members, m.2.Fits (room - 1)) (ending : Ending) :
    (atDepth room (.mapping members ending)).Fits room := by
  cases room with
  | zero => exact .deep
  | succ room => exact .mapping h

/-! The readers call each other with one unit of fuel less, so each is gone through under what is
known of the others. -/

section Readers

variable {fuel : Nat}

theorem fits_readValue_succ
    (hitems : ∀ room cs, ∀ item ∈ (readItems fuel room cs).items, item.Fits room)
    (hmembers : ∀ room cs, ∀ m ∈ (readMembers fuel room cs).members, m.2.Fits room)
    (cs : List Char) : (readValue (fuel + 1) room cs).node.Fits room := by
  unfold readValue
  split
  · refine fits_atDepth_sequence ?_ _
    split
    · exact nofun
    · exact nofun
    · exact hitems _ _
  · refine fits_atDepth_mapping ?_ _
    split
    · exact nofun
    · exact hmembers _ _
    · exact nofun
  · exact fits_readScalar _

theorem fits_readItems_succ (hvalue : ∀ room cs, (readValue fuel room cs).node.Fits room)
    (hitems : ∀ room cs, ∀ item ∈ (readItems fuel room cs).items, item.Fits room)
    (cs : List Char) : ∀ item ∈ (readItems (fuel + 1) room cs).items, item.Fits room := by
  have hfirst := hvalue room cs
  unfold readItems
  dsimp only
  split
  · exact List.forall_mem_singleton.mpr hfirst
  · split
    · exact List.forall_mem_singleton.mpr hfirst
    · split
      · exact List.forall_mem_cons.mpr ⟨hfirst, List.forall_mem_singleton.mpr .stopped⟩
      · exact List.forall_mem_cons.mpr ⟨hfirst, hitems _ _⟩
    · exact List.forall_mem_singleton.mpr hfirst
    · exact List.forall_mem_singleton.mpr hfirst

theorem fits_readMembers_succ (hvalue : ∀ room cs, (readValue fuel room cs).node.Fits room)
    (hmembers : ∀ room cs, ∀ m ∈ (readMembers fuel room cs).members, m.2.Fits room)
    (cs : List Char) : ∀ m ∈ (readMembers (fuel + 1) room cs).members, m.2.Fits room := by
  unfold readMembers
  dsimp only
  split
  · exact List.forall_mem_singleton.mpr (fits_readString cs)
  · split
    · exact List.forall_mem_singleton.mpr .stopped
    · rename_i start _
      have hfirst := hvalue room start
      split
      · exact List.forall_mem_singleton.mpr hfirst
      · split
        · exact List.forall_mem_singleton.mpr hfirst
        · split
          · exact List.forall_mem_cons.mpr ⟨hfirst, hmembers _ _⟩
          · exact List.forall_mem_cons.mpr ⟨hfirst, List.forall_mem_singleton.mpr .stopped⟩
          · exact List.forall_mem_cons.mpr ⟨hfirst, List.forall_mem_singleton.mpr .stopped⟩
        · exact List.forall_mem_singleton.mpr hfirst
        · exact List.forall_mem_singleton.mpr hfirst
    · exact List.forall_mem_singleton.mpr .stopped

theorem fits_read (fuel : Nat) : (∀ room cs, (readValue fuel room cs).node.Fits room) ∧
    (∀ room cs, ∀ item ∈ (readItems fuel room cs).items, item.Fits room) ∧
    ∀ room cs, ∀ m ∈ (readMembers fuel room cs).members, m.2.Fits room := by
  induction fuel with
  | zero => exact ⟨fun _ _ => .stopped, fun _ _ => nofun, fun _ _ => nofun⟩
  | succ fuel ih =>
    obtain ⟨hvalue, hitems, hmembers⟩ := ih
    exact ⟨fun _ => fits_readValue_succ hitems hmembers, fun _ => fits_readItems_succ hvalue hitems,
      fun _ => fits_readMembers_succ hvalue hmembers⟩

end Readers

theorem fits_readDocument (cs : List Char) : (readDocument cs).node.Fits usableDepth :=
  (fits_read _).1 usableDepth cs

end Fits

/-! ## What is written -/

/-- A value or the end of a collection can be told by the first character. -/
def Opens (cs : List Char) : Prop := ∃ c tail, cs = c :: tail ∧ isSpace c = false ∧ c ≠ ']'

theorem Opens.append {cs : List Char} (h : Opens cs) (rest : List Char) : Opens (cs ++ rest) := by
  obtain ⟨c, tail, rfl, hspace, hclose⟩ := h
  exact ⟨c, tail ++ rest, rfl, hspace, hclose⟩

theorem Opens.skipSpace {cs : List Char} (h : Opens cs) : skipSpace cs = cs := by
  obtain ⟨c, tail, rfl, hspace, -⟩ := h
  exact List.dropWhile_cons_of_neg (by simp [hspace])

section Scalars

variable {cs rest : List Char} {s : Scalar}

theorem opens_of_readScalar (h : readScalar cs = .scalar s rest) : Opens cs := by
  cases cs with
  | nil => cases h
  | cons c tail =>
    refine ⟨c, tail, rfl, ?_, ?_⟩
    · by_contra hspace
      simp only [isSpace, Bool.not_eq_false, Bool.or_eq_true, beq_iff_eq] at hspace
      rcases hspace with ((rfl | rfl) | rfl) | rfl <;> cases h
    · rintro rfl
      cases h

theorem readValue_of_readScalar (h : readScalar cs = .scalar s rest) (fuel room : Nat) :
    readValue (fuel + 1) room cs = .scalar s rest := by
  rw [readValue, (opens_of_readScalar h).skipSpace]
  split
  · cases h
  · cases h
  · exact h

/-- The text of a number as a document of its own. -/
theorem ofText_real {x : Number.Binary64} (h : readScalar x.text = .scalar s []) :
    ofText (Json.number (.real x)).text = s.json := by
  have hchars : (Json.number (.real x)).text.toList = x.text := String.toList_ofList
  rw [ofText, decode, hchars, readDocument, readValue_of_readScalar h]
  change (s.json >>= fun v => _) = _
  cases s.json <;> rfl

/-- A number is read as in a text of its own. -/
theorem readScalar_of_readAs {x y : Number.Binary64} (hx : x.Canonical) (h : x.ReadAs y)
    (hrest : Delimited rest) : readScalar (x.text ++ rest) = .scalar (.number (.real y)) rest := by
  obtain ⟨result, -, hread⟩ := exists_readScalar_text hx
  have halone := hread [] delimited_nil
  rw [List.append_nil] at halone
  rw [Number.Binary64.ReadAs, ofText_real halone] at h
  rw [hread rest hrest]
  cases result with
  | none => cases h
  | some z => cases h; rfl

/-- Zeros and short numbers are read as they were written. -/
theorem readAs_of_short {x : Number.Binary64} (hx : x.Canonical)
    (h : x.mantissa = 0 ∨ x.Short) : x.ReadAs x := by
  obtain ⟨result, hshort, hread⟩ := exists_readScalar_text hx
  have halone := hread [] delimited_nil
  rw [List.append_nil, hshort h] at halone
  exact ofText_real halone

/-- A number of seventeen digits need not be read as it was written. -/
example : (⟨false, 5828860554007773, -18⟩ : Number.Binary64).ReadAs
    ⟨false, 5828860554007772, -18⟩ := rfl

/-- What is no collection is read as it was written, a number as its text is read. -/
theorem readScalar_chars {f : Number.Binary64 → Number.Binary64} {v : Json} (hleaf : v.isLeaf = true)
    (hnumber : v.NumberProper) (hread : v.RealReadAs f) (hrest : Delimited rest) :
    ∃ s, ofJson (v.mapReals f) = .scalar s ∧ readScalar (v.chars ++ rest) = .scalar s rest := by
  cases v with
  | null => exact ⟨.null, rfl, rfl⟩
  | bool b => cases b <;> exact ⟨.bool _, rfl, rfl⟩
  | number n =>
    cases n with
    | integer i => exact ⟨.number (.integer i), rfl, readScalar_ofInt hnumber hrest⟩
    | real x => exact ⟨.number (.real (f x)), rfl, readScalar_of_readAs hnumber hread hrest⟩
  | string s =>
    refine ⟨.text s, rfl, ?_⟩
    rw [chars, stringChars, List.cons_append, List.cons_append, List.append_assoc]
    exact readString_escaped s rest
  | array items => cases hleaf
  | object members => cases hleaf

end Scalars

section Collections

variable {f : Number.Binary64 → Number.Binary64} {v : Json} {items : List Json}
  {members : List (String × Json)}

theorem Legible.opens {room : Nat} (h : v.Legible f room) : Opens v.chars := by
  cases hleaf : v.isLeaf with
  | true =>
    obtain ⟨hproper, hreadAs⟩ := h.number hleaf
    obtain ⟨s, -, hread⟩ := readScalar_chars hleaf hproper hreadAs delimited_nil
    rw [List.append_nil] at hread
    exact opens_of_readScalar hread
  | false =>
    cases v with
    | array items => exact ⟨'[', _, rfl, rfl, by decide⟩
    | object members => exact ⟨'{', _, rfl, rfl, by decide⟩
    | _ => cases hleaf

/-- The text of the value is read as its document wherever it may stand. Every character but one
pays for a step. -/
def ReadBack (f : Number.Binary64 → Number.Binary64) (v : Json) : Prop :=
  ∀ fuel room rest, v.Legible f room → v.chars.length ≤ fuel → Delimited rest →
    readValue fuel room (v.chars ++ rest) = ⟨ofJson (v.mapReals f), some rest⟩

theorem readBack_leaf (hleaf : v.isLeaf = true) : ReadBack f v := by
  intro fuel room rest hv hfuel hrest
  obtain ⟨hproper, hreadAs⟩ := hv.number hleaf
  obtain ⟨s, hs, hread⟩ := readScalar_chars hleaf hproper hreadAs hrest
  obtain ⟨c, tail, hchars, -⟩ := hv.opens
  obtain ⟨fuel, rfl⟩ : ∃ k, fuel = k + 1 := ⟨fuel - 1, by
    rw [hchars, List.length_cons] at hfuel
    omega⟩
  rw [readValue_of_readScalar hread, hs]
  rfl

theorem opens_itemChars {room : Nat} (h : ∀ v ∈ items, v.Legible f room) (hne : items ≠ []) :
    Opens (itemChars items) := by
  match items, hne with
  | [v], _ => exact (h v List.mem_cons_self).opens
  | v :: w :: more, _ => exact (h v List.mem_cons_self).opens.append _

section Steps

variable {fuel room : Nat} {cs next rest : List Char} {node key : Node}

theorem readItems_close (h : readValue fuel room cs = ⟨node, some (']' :: rest)⟩) :
    readItems (fuel + 1) room cs = ⟨[node], .closed, some rest⟩ := by
  rw [readItems, h]
  rfl

theorem readItems_comma (h : readValue fuel room cs = ⟨node, some (',' :: next)⟩)
    (hnext : Opens next) : readItems (fuel + 1) room cs =
      ⟨node :: (readItems fuel room next).items, (readItems fuel room next).ending,
        (readItems fuel room next).rest⟩ := by
  have hskip := hnext.skipSpace
  obtain ⟨c, tail, rfl, -, hclose⟩ := hnext
  have hcomma : skipSpace (',' :: c :: tail) = ',' :: c :: tail := rfl
  rw [readItems, h]
  simp only [hcomma, hskip]
  split
  · rename_i heq
    cases heq
    exact absurd rfl hclose
  · rfl

theorem readMembers_close {value : List Char} (hkey : readString cs = ⟨key, some (':' :: value)⟩)
    (h : readValue fuel room value = ⟨node, some ('}' :: rest)⟩) :
    readMembers (fuel + 1) room cs = ⟨[(key, node)], .closed, some rest⟩ := by
  have hcolon : skipSpace (':' :: value) = ':' :: value := rfl
  rw [readMembers, hkey]
  simp only [hcolon, h]
  rfl

theorem readMembers_comma {value : List Char} (hkey : readString cs = ⟨key, some (':' :: value)⟩)
    (h : readValue fuel room value = ⟨node, some (',' :: '"' :: next)⟩) :
    readMembers (fuel + 1) room cs =
      ⟨(key, node) :: (readMembers fuel room next).members, (readMembers fuel room next).ending,
        (readMembers fuel room next).rest⟩ := by
  have hcolon : skipSpace (':' :: value) = ':' :: value := rfl
  rw [readMembers, hkey]
  simp only [hcolon, h]
  rfl

theorem readValue_array (hcs : Opens cs) : readValue (fuel + 1) (room + 1) ('[' :: cs) =
    ⟨.sequence true (readItems fuel room cs).items (readItems fuel room cs).ending,
      (readItems fuel room cs).rest⟩ := by
  have hskip := hcs.skipSpace
  obtain ⟨c, tail, rfl, -, hclose⟩ := hcs
  have hopen : skipSpace ('[' :: c :: tail) = '[' :: c :: tail := rfl
  rw [readValue, hopen]
  simp only [hskip]
  split
  · rename_i heq
    cases heq
    exact absurd rfl hclose
  · rename_i heq
    cases heq
  · rfl

theorem readValue_object : readValue (fuel + 1) (room + 1) ('{' :: '"' :: cs) =
    ⟨.mapping (readMembers fuel room cs).members (readMembers fuel room cs).ending,
      (readMembers fuel room cs).rest⟩ := rfl

end Steps

theorem readItems_chars (ih : ∀ v ∈ items, ReadBack f v) (hne : items ≠ []) {fuel room : Nat}
    (hitems : ∀ v ∈ items, v.Legible f room) (hfuel : (itemChars items).length < fuel)
    (rest : List Char) :
    readItems fuel room (itemChars items ++ ']' :: rest) =
      ⟨ofItems (items.map (mapReals f)), .closed, some rest⟩ := by
  induction items generalizing fuel with
  | nil => exact absurd rfl hne
  | cons v items ihItems =>
    obtain ⟨hv, hmore⟩ := List.forall_mem_cons.mp hitems
    obtain ⟨fuel, rfl⟩ : ∃ k, fuel = k + 1 := ⟨fuel - 1, by omega⟩
    cases items with
    | nil =>
      exact readItems_close (ih v List.mem_cons_self fuel room (']' :: rest) hv
        (Nat.le_of_lt_succ hfuel) (delimited_cons (.inr (.inl rfl)) rest))
    | cons w items =>
      have hchars : itemChars (v :: w :: items) = v.chars ++ ',' :: itemChars (w :: items) := rfl
      rw [hchars, List.length_append, List.length_cons] at hfuel
      have hread := ih v List.mem_cons_self fuel room (',' :: (itemChars (w :: items) ++ ']' :: rest))
        hv (by omega) (delimited_cons (.inl rfl) _)
      have hopens := opens_itemChars hmore (by simp)
      rw [hchars, List.append_assoc, List.cons_append,
        readItems_comma hread (hopens.append (']' :: rest)),
        ihItems (fun u hu => ih u (List.mem_cons_of_mem v hu)) (by simp) hmore (by omega)]
      rfl

theorem readBack_array (ih : ∀ v ∈ items, ReadBack f v) : ReadBack f (.array items) := by
  intro fuel room rest hv hfuel hrest
  obtain ⟨room, rfl⟩ : ∃ k, room = k + 1 := ⟨room - 1, by
    have := hv.spellable.shallow
    rw [depth] at this
    omega⟩
  rw [chars, List.length_append, List.length_cons] at hfuel
  obtain ⟨fuel, rfl⟩ : ∃ k, fuel = k + 1 := ⟨fuel - 1, by omega⟩
  rcases List.eq_nil_or_concat items with rfl | ⟨_, _, hitems⟩
  · rfl
  · have hne : items ≠ [] := by simp [hitems]
    have hopens := opens_itemChars hv.item hne
    rw [chars, List.append_assoc, List.cons_append, readValue_array (hopens.append _),
      List.cons_append, List.nil_append,
      readItems_chars ih hne hv.item (by simp at hfuel; omega), mapReals_array]
    rfl

/-- The first member, from its opening quote up to what follows its value. -/
theorem memberChars_cons (name : String) (value : Json) (members : List (String × Json)) :
    memberChars ((name, value) :: members) = '"' :: (name.toList.flatMap escape ++ '"' :: ':' ::
      (value.chars ++ if members.isEmpty then [] else ',' :: memberChars members)) := by
  cases members <;> simp [memberChars, stringChars]

/-- From behind the opening quote of the first name. -/
theorem readMembers_chars (ih : ∀ m ∈ members, ReadBack f m.2) (hne : members ≠ [])
    {fuel room : Nat} (hmembers : ∀ m ∈ members, m.2.Legible f room)
    (hfuel : (memberChars members).length < fuel) :
    ∃ cs, memberChars members = '"' :: cs ∧ ∀ rest, readMembers fuel room (cs ++ '}' :: rest) =
      ⟨ofMembers (members.map fun m => (m.1, m.2.mapReals f)), .closed, some rest⟩ := by
  induction members generalizing fuel with
  | nil => exact absurd rfl hne
  | cons m members ihMembers =>
    obtain ⟨name, value⟩ := m
    obtain ⟨hvalue, hmore⟩ := List.forall_mem_cons.mp hmembers
    obtain ⟨fuel, rfl⟩ : ∃ k, fuel = k + 1 := ⟨fuel - 1, by omega⟩
    rw [memberChars_cons] at hfuel ⊢
    refine ⟨_, rfl, fun rest => ?_⟩
    simp only [List.length_cons, List.length_append] at hfuel
    rw [List.append_assoc, List.cons_append, List.cons_append, List.append_assoc]
    have hkey := readString_escaped name
    have hlength : value.chars.length ≤ fuel := by omega
    have hread := fun next => ih (name, value) List.mem_cons_self fuel room next hvalue hlength
    cases members with
    | nil =>
      exact readMembers_close (hkey _) (hread _ (delimited_cons (.inr (.inr rfl)) rest))
    | cons m members =>
      simp only [List.isEmpty_cons, Bool.false_eq_true, ↓reduceIte, List.length_cons] at hfuel ⊢
      obtain ⟨cs, hcs, hrest⟩ := ihMembers (fun u hu => ih u (List.mem_cons_of_mem _ hu)) (by simp)
        hmore (by omega : (memberChars (m :: members)).length < fuel)
      rw [hcs, List.cons_append, List.cons_append,
        readMembers_comma (hkey _) (hread _ (delimited_cons (.inl rfl) _)), hrest]
      rfl

theorem readBack_object (ih : ∀ m ∈ members, ReadBack f m.2) : ReadBack f (.object members) := by
  intro fuel room rest hv hfuel hrest
  obtain ⟨room, rfl⟩ : ∃ k, room = k + 1 := ⟨room - 1, by
    have := hv.spellable.shallow
    rw [depth] at this
    omega⟩
  rw [chars, List.length_append, List.length_cons, List.length_singleton] at hfuel
  obtain ⟨fuel, rfl⟩ : ∃ k, fuel = k + 1 := ⟨fuel - 1, by omega⟩
  by_cases hne : members = []
  · subst hne
    rfl
  · obtain ⟨cs, hcs, hread⟩ := readMembers_chars ih hne hv.member
      (by omega : (memberChars members).length < fuel)
    rw [chars, hcs, List.append_assoc, List.cons_append, List.cons_append, readValue_object,
      List.cons_append, List.nil_append, hread, mapReals_object]
    rfl

/-- Every value is read back from its text. -/
theorem readBack (f : Number.Binary64 → Number.Binary64) (v : Json) : ReadBack f v := by
  induction v using nestedInduction with
  | leaf v hleaf => exact readBack_leaf hleaf
  | array items ih => exact readBack_array ih
  | object members ih => exact readBack_object ih

end Collections

section Documents

variable {f : Number.Binary64 → Number.Binary64} {v : Json}

/-- A text that may be as deep as a document delivers the value that it was made from, and nothing
is left of it. -/
theorem readDocument_chars (h : v.Legible f usableDepth) :
    readDocument v.chars = ⟨ofJson (v.mapReals f), some []⟩ := by
  have hread := readBack f v (2 * v.chars.length + 2) usableDepth [] h (by omega) delimited_nil
  rwa [List.append_nil] at hread

theorem decode_text {α : Type} {read : Node → Except ReadError α} (h : v.Legible f usableDepth) :
    decode read v.text = read (ofJson (v.mapReals f)) := by
  rw [decode, text, String.toList_ofList, readDocument_chars h]
  dsimp only
  cases read (ofJson (v.mapReals f)) <;> rfl

/-- A value without repeated names is the value of its text if all its numbers are. -/
theorem ofText_text (hnames : v.Distinct) (h : v.Legible id usableDepth) :
    ofText v.text = .ok v := by
  rw [ofText, decode_text h, mapReals_id, Node.json_ofJson hnames]

theorem ofBytes?_text (hnames : v.Distinct) (h : v.Legible id usableDepth) :
    ofBytes? v.text.toUTF8 = some v := by
  have hutf8 : String.fromUTF8? v.text.toUTF8 = some v.text := dif_pos v.text.isValidUTF8
  rw [ofBytes?, hutf8, Option.bind_eq_bind, Option.bind_some, ofText_text hnames h]
  rfl

end Documents

theorem read_of_decode {α : Type} {read : Node → Except ReadError α} {s : String} {a : α}
    (h : decode read s = .ok a) : read (readDocument s.toList).node = .ok a := by
  obtain ⟨b, hread, hrest⟩ := bind_eq_ok_iff.mp h
  split at hrest
  · cases hrest
  · split at hrest <;> cases hrest
    exact hread

end Json
end ApiMapping
