import ApiMapping.Proofs.Template.Addressing
import ApiMapping.Proofs.Text.Cut

/-!
# Locators one behind the other

Two locators with a dot between them select what the second one selects from what the first
one selects. The dot ends a step wherever it is read as a sign, so the steps of the whole are
those of the two parts. A length that is followed by a step leads nowhere either way.
-/

namespace ApiMapping
namespace Template

/-! ## Following the steps of two parts -/

theorem follow_count_cons (s : Segment) (rest : List Segment) (v : Json) :
    follow (.count :: s :: rest) v = none := rfl

theorem follow_cons_ofNat (s : Segment) (rest : List Segment) (n : Nat) :
    follow (s :: rest) (Json.ofNat n) = none := by
  cases s <;> cases rest <;> rfl

/-- Nothing leads on from a length. -/
theorem follow_count_bind (s : Segment) (rest : List Segment) (v : Json) :
    follow [.count] v >>= follow (s :: rest) = none := by
  cases v with
  | array items => exact follow_cons_ofNat s rest items.length
  | _ => rfl

theorem follow_append (first rest : List Segment) (v : Json) :
    follow (first ++ rest) v = follow first v >>= follow rest := by
  induction first generalizing v with
  | nil => rfl
  | cons s first ih =>
    by_cases hcount : s = .count
    · subst hcount
      cases first with
      | cons t first => rw [List.cons_append, List.cons_append, follow_count_cons,
          follow_count_cons]; rfl
      | nil =>
        cases rest with
        | nil => rw [List.append_nil]; exact (bind_pure _).symm
        | cons t rest => rw [List.singleton_append, follow_count_cons, follow_count_bind]
    · rw [List.cons_append, follow_cons_of_ne_count hcount, follow_cons_of_ne_count hcount,
        bind_assoc]
      exact congrArg (s.step? v >>= ·) (funext ih)

namespace Locator

/-! ## Scanning two parts -/

/-- Texts whose scan ends outside brackets and not behind a backslash that protects nothing. -/
inductive Complete : List Char → Prop
  | nil : Complete []
  | escaped (c : Char) {rest : List Char} : Complete rest → Complete ('\\' :: c :: rest)
  | bracket {inner rest : List Char} : ']' ∉ inner → Complete rest →
    Complete ('[' :: inner ++ ']' :: rest)
  | plain {c : Char} {rest : List Char} : c ≠ '\\' → c ≠ '[' → Complete rest → Complete (c :: rest)

/-- Texts whose scan ends in brackets, or behind a backslash that protects nothing. -/
def Open (cs : List Char) : Prop :=
  ∃ before after, Complete before ∧ cs = before ++ after ∧
    (after = ['\\'] ∨ ∃ inner, ']' ∉ inner ∧ after = '[' :: inner)

theorem Open.append (start : List Char) {rest : List Char}
    (h : ∀ {cs}, Complete cs → Complete (start ++ cs)) (hrest : Open rest) :
    Open (start ++ rest) := by
  obtain ⟨before, after, hbefore, rfl, hafter⟩ := hrest
  exact ⟨start ++ before, after, h hbefore, (List.append_assoc _ _ _).symm, hafter⟩

/-- There are no other texts. -/
theorem complete_or_open (cs : List Char) : Complete cs ∨ Open cs := by
  -- A step of the scan takes several characters, so the induction is on the length.
  induction hn : cs.length using Nat.strongRecOn generalizing cs with
  | _ n ih =>
    subst hn
    cases cs with
    | nil => exact .inl .nil
    | cons c rest =>
      by_cases hescape : c = '\\'
      · subst hescape
        cases rest with
        | nil => exact .inr ⟨[], ['\\'], .nil, rfl, .inl rfl⟩
        | cons d rest =>
          have hshorter : rest.length < ('\\' :: d :: rest).length := by
            simp only [List.length_cons]
            omega
          exact (ih _ hshorter rest rfl).imp (.escaped d)
            (Open.append ['\\', d] (.escaped d))
      · by_cases hbracket : c = '['
        · subst hbracket
          by_cases hclose : ']' ∈ rest
          · obtain ⟨inner, after, rfl, hinner⟩ := List.eq_append_cons_of_mem hclose
            have hshorter : after.length < ('[' :: (inner ++ ']' :: after)).length := by
              simp only [List.length_cons, List.length_append]
              omega
            rw [show '[' :: (inner ++ ']' :: after) = ('[' :: inner ++ [']']) ++ after by simp]
            have hgrow {cs : List Char} (h : Complete cs) :
                Complete ('[' :: inner ++ [']'] ++ cs) := by
              simpa using Complete.bracket hinner h
            exact (ih _ hshorter after rfl).imp hgrow (.append _ hgrow)
          · exact .inr ⟨[], '[' :: rest, .nil, rfl, .inr ⟨rest, hclose, rfl⟩⟩
        · exact (ih _ (by simp) rest rfl).imp (.plain hescape hbracket)
            (Open.append [c] (.plain hescape hbracket))

/-- Behind a complete text, a dot ends a step and nothing of it is left over. -/
theorem Complete.scan_append {cs : List Char} (h : Complete cs) (current rest : List Char) :
    scan current (cs ++ '.' :: rest) = scan current cs ++ scan [] rest := by
  induction h generalizing current with
  | nil => rfl
  | escaped c _ ih => exact ih (c :: current)
  | @bracket inner tail hclose _ ih =>
    have hscan (after : List Char) :
        scan current ('[' :: inner ++ ']' :: after) =
          flush current ++ bracketed inner.reverse :: scan [] after := by
      have hinner := scanBracket_plain hclose [] (']' :: after)
      rw [List.append_nil, scanBracket.eq_2] at hinner
      rw [List.cons_append, scan.eq_5, hinner]
    have hsplit : '[' :: inner ++ ']' :: tail ++ '.' :: rest =
        '[' :: inner ++ ']' :: (tail ++ '.' :: rest) := by simp
    rw [hsplit, hscan, hscan, ih, List.append_assoc, List.cons_append]
  | @plain c tail hescape hbracket _ ih =>
    by_cases hdot : c = '.'
    · subst hdot
      rw [List.cons_append, scan.eq_4, scan.eq_4, ih, List.append_assoc]
    · have hscan (after : List Char) : scan current (c :: after) = scan (c :: current) after :=
        scan.eq_6 _ _ _ (by simp_all) (by simp_all) (by simp_all) (by simp_all)
      rw [List.cons_append, hscan, hscan, ih]

/-! ## The root of the joined locator -/

theorem body_of_trimmed_of_not_root {cs : List Char} (htrim : Text.trim cs = cs)
    (hroot : cs.head? ≠ some '$') : body cs = cs := by
  rw [Text.trim_eq_self_iff] at htrim
  exact body_of_bare ⟨fun c hc => ⟨htrim.1 c hc, fun h => hroot (h ▸ hc)⟩, htrim.2⟩

/-- The dot between two parts keeps blanks out of the middle. -/
theorem trim_joined {p q : List Char} (hp : Text.trim p = p) (hq : Text.trim q = q) :
    Text.trim (p ++ '.' :: q) = p ++ '.' :: q := by
  rw [Text.trim_eq_self_iff] at hp hq ⊢
  constructor
  · intro c hc
    cases p with
    | nil => cases hc; decide
    | cons d p => exact hp.1 c hc
  · intro c hc
    rw [List.getLast?_append, Option.mem_def, Option.or_eq_some_iff, List.getLast?_cons] at hc
    cases hlast : q.getLast? with
    | none => simp [hlast] at hc; subst hc; decide
    | some d => simp [hlast] at hc; exact hq.2 c (hc ▸ hlast)

def withoutRoot : List Char → List Char
  | '$' :: rest => rest
  | cs => cs

def withoutDottedRoot : List Char → List Char
  | '$' :: '.' :: rest => rest
  | cs => cs

/-- Both forms of the root are taken off, one after the other. -/
theorem body_of_trimmed {cs : List Char} (h : Text.trim cs = cs) :
    body cs = withoutRoot (withoutDottedRoot cs) := by
  have hdotted : (Text.afterStart? ['$', '.'] cs).getD cs = withoutDottedRoot cs := by
    unfold withoutDottedRoot
    split
    · rfl
    · exact Text.getD_afterStart?_of_ne ‹_›
  have hplain (path : List Char) : (Text.afterStart? ['$'] path).getD path = withoutRoot path := by
    unfold withoutRoot
    split
    · rfl
    · exact Text.getD_afterStart?_of_ne ‹_›
  rw [body, h, hdotted, hplain]

theorem withoutRoot_of_not_root {cs : List Char} (h : cs.head? ≠ some '$') :
    withoutRoot cs = cs := by
  unfold withoutRoot
  split
  · exact absurd rfl h
  · rfl

theorem withoutRoot_joined (p q : List Char) :
    withoutRoot (p ++ '.' :: q) = withoutRoot p ++ '.' :: q := by
  cases p with
  | nil => rfl
  | cons c p =>
    by_cases hc : c = '$'
    · rw [hc]
      rfl
    · have hroot (rest : List Char) : withoutRoot (c :: rest) = c :: rest :=
        withoutRoot_of_not_root fun h => hc (Option.some.inj h)
      rw [List.cons_append, hroot, hroot, List.cons_append]

/-- The dot at the joint belongs to a root only if the first part is nothing but that root. -/
theorem withoutDottedRoot_joined {p : List Char} (hp : p ≠ ['$']) (q : List Char) :
    withoutDottedRoot (p ++ '.' :: q) = withoutDottedRoot p ++ '.' :: q := by
  unfold withoutDottedRoot
  split
  · rename_i rest heq
    match p with
    | [] => cases heq
    | [c] =>
      obtain ⟨rfl, -⟩ := List.cons.inj heq
      exact absurd rfl hp
    | c :: d :: p =>
      obtain ⟨rfl, hrest⟩ := List.cons.inj heq
      obtain ⟨rfl, rfl⟩ := List.cons.inj hrest
      rfl
  · rename_i hother
    split
    · exact absurd rfl (hother _)
    · rfl

theorem body_joined {p q : List Char} (hp : Text.trim p = p) (hq : Text.trim q = q)
    (hroot : q.head? ≠ some '$') :
    body (p ++ '.' :: q) = body p ++ '.' :: q ∨ p = ['$'] ∧ body (p ++ '.' :: q) = q := by
  rw [body_of_trimmed (trim_joined hp hq), body_of_trimmed hp]
  by_cases hdollar : p = ['$']
  · subst hdollar
    exact .inr ⟨rfl, withoutRoot_of_not_root hroot⟩
  · exact .inl (by rw [withoutDottedRoot_joined hdollar, withoutRoot_joined])

theorem scan_body_joined {p q : List Char} (hp : Text.trim p = p) (hq : Text.trim q = q)
    (hroot : q.head? ≠ some '$') (hends : Complete (body p)) :
    scan [] (body (p ++ '.' :: q)) = scan [] (body p) ++ scan [] (body q) := by
  rw [body_of_trimmed_of_not_root hq hroot]
  rcases body_joined hp hq hroot with hbody | ⟨rfl, hbody⟩
  · rw [hbody, hends.scan_append]
  · rw [hbody]
    rfl

end Locator

/-- A locator made of two with a dot between them selects with the second from what the first
selects. -/
theorem select_joined (document : Json) {p q : String} (hp : Text.trim p.toList = p.toList)
    (hq : Text.trim q.toList = q.toList) (hroot : q.toList.head? ≠ some '$')
    (hends : Locator.Complete (Locator.body p.toList)) :
    select document (p ++ "." ++ q) = select document p >>= fun v => select v q := by
  have hjoined : (p ++ "." ++ q).toList = p.toList ++ '.' :: q.toList := by simp
  rw [select, select, Locator.segments, hjoined, Locator.scan_body_joined hp hq hroot hends,
    follow_append]
  rfl

/-- A root, a protected dot and brackets in the first part, and a length in the second. -/
theorem select_joined_sample :
    Text.trim "$.a\\.b[0]".toList = "$.a\\.b[0]".toList ∧ Text.trim "#".toList = "#".toList ∧
      "#".toList.head? ≠ some '$' ∧ Locator.Complete (Locator.body "$.a\\.b[0]".toList) ∧
      select (.object [("a.b", .array [.array [.null, .null]])]) ("$.a\\.b[0]" ++ "." ++ "#") =
        (select (.object [("a.b", .array [.array [.null, .null]])]) "$.a\\.b[0]" >>=
          fun v => select v "#") := by
  have hcomplete : Locator.Complete (Locator.body "$.a\\.b[0]".toList) := by
    change Locator.Complete ['a', '\\', '.', 'b', '[', '0', ']']
    refine .plain (by decide) (by decide) (.escaped '.' (.plain (by decide) (by decide) ?_))
    exact @Locator.Complete.bracket ['0'] [] (by decide) .nil
  have hfirst : Text.trim "$.a\\.b[0]".toList = "$.a\\.b[0]".toList := by decide
  have hsecond : Text.trim "#".toList = "#".toList := by decide
  have hroot : "#".toList.head? ≠ some '$' := by decide
  exact ⟨hfirst, hsecond, hroot, hcomplete, select_joined _ hfirst hsecond hroot hcomplete⟩

end Template
end ApiMapping
