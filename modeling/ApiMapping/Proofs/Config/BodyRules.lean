import ApiMapping.Config.Reading
import ApiMapping.Proofs.Document.Reading
import Mathlib.Data.List.Permutation

/-!
# Body rules as a document declares them

A declaration is what the author of a document means: rules in order, and in each case the
scalars themselves. Reading keeps the order of the rules, gives repeated locators a rule
each, and leaves of every scalar the text that a field is compared by.
-/

namespace ApiMapping

/-- Only scalars other than null can be listed. -/
def Json.isComparable : Json → Bool
  | .string _ | .number _ | .bool _ => true
  | _ => false

namespace Declared

open Document

structure Case where
  values : List Json
  reply : Reply

structure Rule where
  locator : String
  cases : List Case

structure Section where
  fallback : Reply
  rules : List Rule

namespace Case

def settled (c : Case) : BodyCase := ⟨c.values.map Json.plainText, c.reply⟩

/-- The nodes of a case, its two fields in either order. -/
inductive SpelledBy (c : Case) : Node → Prop
  | mapping {valuesKey replyKey reply : Node} {positional : Bool} {items : List Node}
      {members : List (Node × Node)}
      (values_key : valuesKey.keyText = .ok "values")
      (reply_key : replyKey.keyText = .ok "response")
      (listed : List.Forall₂ (fun item v => item.json = .ok v ∧ v.isComparable = true)
        items c.values)
      (read_reply : Reply.record.read reply = .ok c.reply)
      (either_order : members.Perm
        [(valuesKey, .sequence positional items .closed), (replyKey, reply)]) :
      SpelledBy c (.mapping members .closed)

end Case

namespace Rule

def settled (r : Rule) : BodyRule := ⟨r.locator, r.cases.map Case.settled⟩

/-- The member of a rule. -/
inductive SpelledBy (r : Rule) : Node × Node → Prop
  | member {key : Node} {positional : Bool} {items : List Node}
      (locator_key : key.keyText = .ok r.locator)
      (cases : List.Forall₂ (fun item c => c.SpelledBy item) items r.cases) :
      SpelledBy r (key, .sequence positional items .closed)

end Rule

namespace Section

def settled (s : Section) : BodySection := ⟨s.fallback, s.rules.map Rule.settled⟩

/-- The nodes of a section, its two fields in either order. -/
inductive SpelledBy (s : Section) : Node → Prop
  | mapping {fallbackKey rulesKey fallback : Node} {rules members : List (Node × Node)}
      (fallback_key : fallbackKey.keyText = .ok "default")
      (rules_key : rulesKey.keyText = .ok "custom")
      (read_fallback : Reply.wrapped.read fallback = .ok s.fallback)
      (in_order : List.Forall₂ (fun m r => r.SpelledBy m) rules s.rules)
      (either_order : members.Perm
        [(fallbackKey, fallback), (rulesKey, .mapping rules .closed)]) :
      SpelledBy s (.mapping members .closed)

end Section

theorem readMatchValue_of_json {node : Node} {v : Json} (h : node.json = .ok v)
    (hv : v.isComparable = true) : readMatchValue node = .ok v.plainText := by
  rw [readMatchValue, h]
  cases v with
  | string s => rfl
  | number n => rfl
  | bool b => rfl
  | null | array | object => cases hv

namespace Case

theorem SpelledBy.read {c : Case} {node : Node} (h : c.SpelledBy node) :
    BodyCase.record.read node = .ok c.settled := by
  cases h with
  | @mapping _ _ _ positional items _ values_key reply_key listed read_reply either_order =>
    have htexts : List.Forall₂ (fun item v => readMatchValue item = .ok v.plainText)
        items c.values := by
      refine listed.imp ?_
      rintro item v ⟨hjson, hcomparable⟩
      exact readMatchValue_of_json hjson hcomparable
    have hvalues := Node.list_sequence htexts "a list of strings, numbers or booleans" positional
    rcases List.perm_pair.mp either_order with rfl | rfl
    · exact Record.read_two values_key reply_key rfl rfl (by decide)
        (Field.read_needed hvalues _ _) (Field.read_needed read_reply _ _) rfl
    · exact Record.read_two reply_key values_key rfl rfl (by decide)
        (Field.read_needed read_reply _ _) (Field.read_needed hvalues _ _) rfl

end Case

namespace Section

theorem readRules_of_spelledBy {rules : List (Node × Node)} {s : Section}
    (h : List.Forall₂ (fun m r => r.SpelledBy m) rules s.rules) :
    BodySection.readRules (.mapping rules .closed) = .ok s.settled.rules := by
  have hmembers : List.Forall₂ (fun m (r : Rule) => m.1.keyText = .ok r.locator ∧
      Node.list "a sequence" BodyCase.record.read m.2 = .ok (r.cases.map Case.settled))
      rules s.rules := by
    refine h.imp ?_
    rintro m r ⟨locator_key, cases⟩
    refine ⟨locator_key, Node.list_sequence ?_ "a sequence" _⟩
    exact cases.imp fun item c hcase => hcase.read
  have hentries := Node.entries_mapping hmembers "a map of field locator to response cases"
  rw [BodySection.readRules, hentries]
  simp only [bind, Except.bind, pure, Except.pure, List.map_map]
  rfl

theorem SpelledBy.read {s : Section} {node : Node} (h : s.SpelledBy node) :
    BodySection.record.read node = .ok s.settled := by
  cases h with
  | mapping fallback_key rules_key read_fallback in_order either_order =>
    have hrules := readRules_of_spelledBy in_order
    rcases List.perm_pair.mp either_order with rfl | rfl
    · exact Record.read_two fallback_key rules_key rfl rfl (by decide)
        (Field.read_needed read_fallback _ _) (Field.read_defaulted hrules _ _) rfl
    · exact Record.read_two rules_key fallback_key rfl rfl (by decide)
        (Field.read_defaulted hrules _ _) (Field.read_needed read_fallback _ _) rfl

end Section
end Declared
end ApiMapping
