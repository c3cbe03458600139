import ApiMapping.Proofs.Failure
import ApiMapping.Proofs.Routing.StatusRouting

/-!
# What can be reported of one entry

When a mapping or a plugin of a configuration is sound, and what the check may report of one
that is not. The checks of one mapping have a fixed order, so all it leaves open is which of
several bad replies by status is named, and that alone hangs on the order of these replies.
-/

namespace ApiMapping

/-- The statuses that can be sent to a caller. -/
def Sendable (code : UInt16) : Prop := 100 ≤ code ∧ code ≤ 599

/-- The shortest decimal text of a status that can be sent. -/
def StatusText (key : String) : Prop :=
  ∃ n : Nat, 100 ≤ n ∧ n ≤ 599 ∧ key = String.ofList (Text.ofNat n)

theorem isReplyStatus_eq_true_iff {code : UInt16} : isReplyStatus code = true ↔ Sendable code := by
  simp [isReplyStatus, Sendable]

theorem isReplyStatus_eq_false_iff {code : UInt16} :
    isReplyStatus code = false ↔ ¬ Sendable code := by
  rw [← isReplyStatus_eq_true_iff, Bool.not_eq_true]

/-! ## Mappings -/

namespace Mapping

/-- The reply of the selected section that applies where no other does. -/
def fallback? (m : Mapping) : Option Reply :=
  match m.strategy with
  | .byStatus => m.response.byStatus.map StatusSection.fallback
  | .byBody => m.response.byBody.map BodySection.fallback

/-- The replies by status of the selected section. -/
def entries (m : Mapping) : List (String × Reply) :=
  match m.strategy, m.response.byStatus with
  | .byStatus, some s => s.custom
  | _, _ => []

/-- The cases of all rules of the selected section. -/
def cases (m : Mapping) : List BodyCase :=
  match m.strategy, m.response.byBody with
  | .byBody, some s => s.rules.flatMap BodyRule.cases
  | _, _ => []

structure Sound (m : Mapping) : Prop where
  texts : ∀ text ∈ [m.name, m.source.url, m.source.method, m.target.url, m.target.method],
    Text.isBlankText text = false
  /-- The section that the strategy selects is there. -/
  fallback : ∃ reply, m.fallback? = some reply ∧ Sendable reply.status
  entries : ∀ entry ∈ m.entries, StatusText entry.1 ∧ Sendable entry.2.status
  cases : ∀ c ∈ m.cases, Sendable c.reply.status

/-- What can be reported of a reply by status. -/
inductive EntryFault (m : Mapping) : ConfigError → Prop where
  | key {entry : String × Reply} : entry ∈ m.entries → ¬ StatusText entry.1 →
    EntryFault m (.invalidStatusKey m.name entry.1)
  | status {entry : String × Reply} : entry ∈ m.entries → StatusText entry.1 →
    ¬ Sendable entry.2.status → EntryFault m (.invalidStatusCode m.name entry.2.status)

def TextsSound (m : Mapping) : Prop := ∀ text ∈ m.requiredTexts, Text.isBlankText text.2 = false

/-- What is reported of the replies of the selected section: a bad status of the fallback comes
first, of the cases the first bad one, and of the replies by status any. -/
inductive ReplyFault (m : Mapping) (fallback : Reply) : ConfigError → Prop where
  | fallback : ¬ Sendable fallback.status →
    ReplyFault m fallback (.invalidStatusCode m.name fallback.status)
  | entry {e : ConfigError} : Sendable fallback.status → m.EntryFault e → ReplyFault m fallback e
  | case {c : BodyCase} : Sendable fallback.status →
    (m.cases.find? fun c => !isReplyStatus c.reply.status) = some c →
    ReplyFault m fallback (.invalidStatusCode m.name c.reply.status)

/-- What is reported of a mapping that is not sound: the first blank text, else that the section
is missing, else a bad reply. -/
inductive Fault (m : Mapping) : ConfigError → Prop where
  | text {field text : String} :
    (m.requiredTexts.find? fun (_, value) => Text.isBlankText value) = some (field, text) →
    Fault m (.missingField m.name field)
  | noSection : m.TextsSound → m.fallback? = none → Fault m (.missingRouting m.name m.strategy)
  | reply {fallback : Reply} {e : ConfigError} : m.TextsSound → m.fallback? = some fallback →
    m.ReplyFault fallback e → Fault m e

variable {m m' : Mapping} {e e' : ConfigError}

theorem not_textsSound_of_find? {text : String × String}
    (h : (m.requiredTexts.find? fun (_, value) => Text.isBlankText value) = some text) :
    ¬ m.TextsSound := by
  intro hsound
  have hblank : Text.isBlankText text.2 = true :=
    List.find?_some (p := fun (text : String × String) => Text.isBlankText text.2) h
  rw [hsound text (List.mem_of_find?_eq_some h)] at hblank
  cases hblank

theorem checkTexts_eq_ok_iff : m.checkTexts = .ok () ↔ m.TextsSound := by
  unfold checkTexts
  split
  · rename_i field text hfind
    simp [not_textsSound_of_find? hfind]
  · rename_i hfind
    simpa [TextsSound, List.find?_eq_none] using hfind

theorem fault_of_checkTexts (h : m.checkTexts = .error e) : m.Fault e := by
  unfold checkTexts at h
  split at h
  · rename_i field text hfind
    cases h
    exact .text hfind
  · cases h

/-- The check of one reply by status. -/
def checkEntry (m : Mapping) (entry : String × Reply) : Except ConfigError Unit := do
  let _ ← m.checkKey entry.1
  m.checkReply entry.2

theorem checkReply_eq_error_iff {reply : Reply} :
    m.checkReply reply = .error e ↔
      ¬ Sendable reply.status ∧ e = .invalidStatusCode m.name reply.status := by
  unfold checkReply
  split
  · rename_i h
    simp [isReplyStatus_eq_true_iff.mp h]
  · rename_i h
    simp [isReplyStatus_eq_false_iff.mp (Bool.not_eq_true _ ▸ h), eq_comm]

theorem checkEntry_eq_ok_iff {entry : String × Reply} :
    m.checkEntry entry = .ok () ↔ StatusText entry.1 ∧ Sendable entry.2.status := by
  simp only [checkEntry, bind_eq_ok_iff, checkKey_eq_ok_iff, checkReply_eq_ok_iff,
    exists_and_right, exists_statusOfKey?_iff, isReplyStatus_eq_true_iff, StatusText]

theorem entryFault_of_checkEntry {entry : String × Reply} (hentry : entry ∈ m.entries)
    (h : m.checkEntry entry = .error e) : m.EntryFault e := by
  rcases bind_eq_error_iff.mp h with hkey | ⟨code, hkey, hreply⟩
  · unfold checkKey at hkey
    split at hkey
    · cases hkey
    · rename_i hnone
      cases hkey
      refine .key hentry fun htext => ?_
      obtain ⟨code, hcode⟩ := exists_statusOfKey?_iff.mpr htext
      rw [hnone] at hcode
      cases hcode
  · obtain ⟨hstatus, rfl⟩ := checkReply_eq_error_iff.mp hreply
    exact .status hentry (exists_statusOfKey?_iff.mp ⟨code, checkKey_eq_ok_iff.mp hkey⟩) hstatus

/-- The checks of a section, its fallback first. -/
def checkReplies (m : Mapping) (fallback : Reply) : Except ConfigError Unit := do
  m.checkReply fallback
  m.entries.forM m.checkEntry
  m.cases.forM fun c => m.checkReply c.reply

/-- Both strategies check a fallback, and after it the replies that they have. -/
theorem checkSection_eq (m : Mapping) :
    m.checkSection = match m.fallback? with
      | none => .error (.missingRouting m.name m.strategy)
      | some reply => m.checkReplies reply := by
  cases hstrategy : m.strategy with
  | byStatus =>
    rw [checkSection_of_byStatus hstrategy]
    cases hsection : m.response.byStatus with
    | none => simp [fallback?, hstrategy, hsection]
    | some s =>
      have hcases : m.cases = [] := by simp [cases, hstrategy]
      have hentries : m.entries = s.custom := by simp [entries, hstrategy, hsection]
      simp only [fallback?, hstrategy, hsection, Option.map_some, checkReplies, hcases, hentries]
      exact congrArg (m.checkReply s.fallback >>= ·) (funext fun _ => (bind_pure _).symm)
  | byBody =>
    rw [checkSection_of_byBody hstrategy]
    cases hsection : m.response.byBody with
    | none => simp [fallback?, hstrategy, hsection]
    | some s =>
      have hcases : m.cases = s.rules.flatMap BodyRule.cases := by
        simp [cases, hstrategy, hsection]
      have hentries : m.entries = [] := by simp [entries, hstrategy]
      simp only [fallback?, hstrategy, hsection, Option.map_some, checkReplies, hcases, hentries,
        forM_flatMap]
      rfl

theorem replyFault_of_checkReplies {reply : Reply} (h : m.checkReplies reply = .error e) :
    m.ReplyFault reply e := by
  rcases andThen_eq_error_iff.mp h with hbad | ⟨hgood, hrest⟩
  · obtain ⟨hstatus, rfl⟩ := checkReply_eq_error_iff.mp hbad
    exact .fallback hstatus
  · have hstatus := isReplyStatus_eq_true_iff.mp (checkReply_eq_ok_iff.mp hgood)
    rcases andThen_eq_error_iff.mp hrest with hentries | ⟨-, hcases⟩
    · obtain ⟨entry, hentry, hbad⟩ := exists_of_forM_eq_error hentries
      exact .entry hstatus (entryFault_of_checkEntry hentry hbad)
    · obtain ⟨c, hfind, rfl⟩ := forM_condition_eq_error_iff.mp hcases
      exact .case hstatus hfind

theorem fault_of_check (h : m.check = .error e) : m.Fault e := by
  rcases andThen_eq_error_iff.mp h with htexts | ⟨htexts, hsection⟩
  · exact fault_of_checkTexts htexts
  · have hsound := checkTexts_eq_ok_iff.mp htexts
    rw [checkSection_eq] at hsection
    split at hsection
    · rename_i hnone
      cases hsection
      exact .noSection hsound hnone
    · rename_i reply hreply
      exact .reply hsound hreply (replyFault_of_checkReplies hsection)

theorem textsSound_iff : m.TextsSound ↔
    ∀ text ∈ [m.name, m.source.url, m.source.method, m.target.url, m.target.method],
      Text.isBlankText text = false := by
  simp [TextsSound, requiredTexts]

theorem check_eq_ok_iff_sound : m.check = .ok () ↔ m.Sound := by
  rw [check_eq_ok_iff, checkTexts_eq_ok_iff, checkSection_eq]
  constructor
  · rintro ⟨htexts, hsection⟩
    split at hsection
    · cases hsection
    · rename_i reply hreply
      simp only [checkReplies, andThen_eq_ok_iff, forM_eq_ok_iff, checkReply_eq_ok_iff,
        checkEntry_eq_ok_iff, isReplyStatus_eq_true_iff] at hsection
      obtain ⟨hstatus, hentries, hcases⟩ := hsection
      exact ⟨textsSound_iff.mp htexts, ⟨reply, hreply, hstatus⟩, hentries, hcases⟩
  · rintro ⟨htexts, ⟨reply, hreply, hstatus⟩, hentries, hcases⟩
    refine ⟨textsSound_iff.mpr htexts, ?_⟩
    simp only [hreply, checkReplies, andThen_eq_ok_iff, forM_eq_ok_iff, checkReply_eq_ok_iff,
      checkEntry_eq_ok_iff, isReplyStatus_eq_true_iff]
    exact ⟨hstatus, hentries, hcases⟩

theorem Sound.not_fault (h : m.Sound) : ¬ m.Fault e := by
  intro hfault
  obtain ⟨kept, hkept, hstatus⟩ := h.fallback
  cases hfault with
  | text hfind => exact not_textsSound_of_find? hfind (textsSound_iff.mpr h.texts)
  | noSection _ hnone =>
    rw [hkept] at hnone
    cases hnone
  | reply _ hreply hbad =>
    rw [hkept, Option.some.injEq] at hreply
    subst hreply
    cases hbad with
    | fallback hbad => exact hbad hstatus
    | entry _ hentry =>
      cases hentry with
      | key hmem hbad => exact hbad (h.entries _ hmem).1
      | status hmem _ hbad => exact hbad (h.entries _ hmem).2
    | case _ hfind =>
      have hbad := List.find?_some hfind
      rw [isReplyStatus_eq_true_iff.mpr (h.cases _ (List.mem_of_find?_eq_some hfind))] at hbad
      cases hbad

/-! ### What can be reported of one mapping -/

/-- A section has replies by status or cases. -/
theorem entries_eq_nil_or_cases_eq_nil (m : Mapping) : m.entries = [] ∨ m.cases = [] := by
  cases hstrategy : m.strategy with
  | byStatus => exact .inr (by simp [cases, hstrategy])
  | byBody => exact .inl (by simp [entries, hstrategy])

theorem EntryFault.entries_ne_nil (h : m.EntryFault e) : m.entries ≠ [] := by
  cases h with
  | key hmem _ => exact List.ne_nil_of_mem hmem
  | status hmem _ _ => exact List.ne_nil_of_mem hmem

theorem EntryFault.find?_cases (h : m.EntryFault e) (p : BodyCase → Bool) :
    m.cases.find? p = none := by
  rw [m.entries_eq_nil_or_cases_eq_nil.resolve_left h.entries_ne_nil, List.find?_nil]

theorem ReplyFault.eq_or_entry {fallback : Reply} (h : m.ReplyFault fallback e)
    (h' : m.ReplyFault fallback e') : e' = e ∨ m.EntryFault e ∧ m.EntryFault e' := by
  cases h with
  | fallback hbad =>
    cases h' with
    | fallback _ => exact .inl rfl
    | entry hgood _ => exact absurd hgood hbad
    | case hgood _ => exact absurd hgood hbad
  | entry hgood hentry =>
    cases h' with
    | fallback hbad => exact absurd hgood hbad
    | entry _ hentry' => exact .inr ⟨hentry, hentry'⟩
    | case _ hfind => simp [hentry.find?_cases] at hfind
  | case hgood hfind =>
    cases h' with
    | fallback hbad => exact absurd hgood hbad
    | entry _ hentry => simp [hentry.find?_cases] at hfind
    | case _ hfind' =>
      rw [hfind, Option.some.injEq] at hfind'
      exact .inl (hfind' ▸ rfl)

/-- Two different things can be reported of a mapping only if both are about replies by
status. -/
theorem Fault.eq_or_entry (h : m.Fault e) (h' : m.Fault e') :
    e' = e ∨ m.EntryFault e ∧ m.EntryFault e' := by
  cases h with
  | text hfind =>
    cases h' with
    | text hfind' =>
      rw [hfind, Option.some.injEq, Prod.mk.injEq] at hfind'
      exact .inl (hfind'.1 ▸ rfl)
    | noSection htexts _ => exact absurd htexts (not_textsSound_of_find? hfind)
    | reply htexts _ _ => exact absurd htexts (not_textsSound_of_find? hfind)
  | noSection htexts hnone =>
    cases h' with
    | text hfind => exact absurd htexts (not_textsSound_of_find? hfind)
    | noSection _ _ => exact .inl rfl
    | reply _ hreply _ => simp [hnone] at hreply
  | reply htexts hreply hfault =>
    cases h' with
    | text hfind => exact absurd htexts (not_textsSound_of_find? hfind)
    | noSection _ hnone => simp [hreply] at hnone
    | reply _ hreply' hfault' =>
      rw [hreply, Option.some.injEq] at hreply'
      subst hreply'
      exact hfault.eq_or_entry hfault'

/-- Listed in another order, the replies by status are the same ones. -/
theorem entries_of_relisted (h : m.Relisted m') : m.entries.Perm m'.entries := by
  cases h with
  | same => exact .refl _
  | @byStatus s s' hs hrelisted =>
    cases hstrategy : m.strategy with
    | byStatus => simpa [entries, withByStatus, hstrategy, hs] using hrelisted.custom
    | byBody => simp [entries, withByStatus, hstrategy]

theorem fallback?_of_relisted (h : m.Relisted m') : m'.fallback? = m.fallback? := by
  cases h with
  | same => rfl
  | @byStatus s s' hs hrelisted =>
    cases hstrategy : m.strategy with
    | byStatus => simp [fallback?, withByStatus, hstrategy, hs, hrelisted.fallback]
    | byBody => simp [fallback?, withByStatus, hstrategy]

theorem EntryFault.of_relisted (h : m.Relisted m') (hfault : m.EntryFault e) : m'.EntryFault e := by
  have hname : m.name = m'.name := by cases h <;> rfl
  cases hfault with
  | key hmem hbad =>
    rw [hname]
    exact .key ((entries_of_relisted h).mem_iff.mp hmem) hbad
  | status hmem htext hbad =>
    rw [hname]
    exact .status ((entries_of_relisted h).mem_iff.mp hmem) htext hbad

/-- What can be reported does not hang on the order of the replies by status. -/
theorem Fault.of_relisted (h : m.Relisted m') (hfault : m.Fault e) : m'.Fault e := by
  have hname : m.name = m'.name := by cases h <;> rfl
  have htexts : m'.requiredTexts = m.requiredTexts := by cases h <;> rfl
  have hstrategy : m.strategy = m'.strategy := by cases h <;> rfl
  have hcases : m'.cases = m.cases := by cases h <;> rfl
  have hfallback := fallback?_of_relisted h
  have hsound (hm : m.TextsSound) : m'.TextsSound := by rwa [TextsSound, htexts]
  cases hfault with
  | text hfind =>
    rw [hname]
    exact .text (htexts ▸ hfind)
  | noSection hm hnone =>
    rw [hname, hstrategy]
    exact .noSection (hsound hm) (hfallback.trans hnone)
  | reply hm hreply hbad =>
    refine .reply (hsound hm) (hfallback.trans hreply) ?_
    cases hbad with
    | fallback hstatus => exact hname ▸ .fallback hstatus
    | entry hstatus hentry => exact .entry hstatus (hentry.of_relisted h)
    | case hstatus hfind => exact hname ▸ .case hstatus (hcases ▸ hfind)

end Mapping

/-! ## Plugins -/

namespace PluginBinding

structure Sound (p : PluginBinding) : Prop where
  name : Text.isBlankText p.name = false
  instanceName : Text.isBlankText p.instanceName = false

inductive Fault (p : PluginBinding) : ConfigError → Prop where
  | name : Text.isBlankText p.name = true → Fault p (.missingField "pluginConfigs" "name")
  | instanceName : Text.isBlankText p.name = false → Text.isBlankText p.instanceName = true →
    Fault p (.missingField p.name "instanceName")

variable {p : PluginBinding} {e : ConfigError}

theorem check_eq_ok_iff_sound : p.check = .ok () ↔ p.Sound := by
  have hsound : p.Sound ↔ Text.isBlankText p.name = false ∧
      Text.isBlankText p.instanceName = false :=
    ⟨fun ⟨hname, hinstance⟩ => ⟨hname, hinstance⟩, fun ⟨hname, hinstance⟩ => ⟨hname, hinstance⟩⟩
  rw [hsound, check]
  cases Text.isBlankText p.name <;> cases Text.isBlankText p.instanceName <;> simp

theorem fault_of_check (h : p.check = .error e) : p.Fault e := by
  unfold check at h
  split at h
  · rename_i hname
    cases h
    exact .name hname
  · rename_i hname
    split at h
    · rename_i hinstance
      cases h
      exact .instanceName (Bool.of_not_eq_true hname) hinstance
    · cases h

theorem Fault.unique {e' : ConfigError} (h : p.Fault e) (h' : p.Fault e') : e' = e := by
  cases h with
  | name hblank =>
    cases h' with
    | name _ => rfl
    | instanceName hfilled _ => exact Bool.noConfusion (hfilled.symm.trans hblank)
  | instanceName hfilled _ =>
    cases h' with
    | name hblank => exact Bool.noConfusion (hfilled.symm.trans hblank)
    | instanceName _ _ => rfl

theorem Sound.not_fault (h : p.Sound) : ¬ p.Fault e := by
  intro hfault
  cases hfault with
  | name hblank => exact Bool.noConfusion (h.name.symm.trans hblank)
  | instanceName _ hblank => exact Bool.noConfusion (h.instanceName.symm.trans hblank)

end PluginBinding
end ApiMapping
