import ApiMapping.Proofs.Keyed
import ApiMapping.Proofs.Template.Resolution
import ApiMapping.Proofs.Template.Verdicts
import ApiMapping.Proofs.Text.LetterCase

/-!
# Headers by name

Headers are grouped by their names in lower case, and no value is lost or moved among those of
its name. What a template reads of them is the first value of a name, so that it depends neither
on the order of headers with different names nor on the case of ASCII names.
-/

namespace ApiMapping

namespace Headers

variable {pairs pairs' : List (String × String)}

/-- The values of the headers that have this name in lower case, in their order. -/
def valuesOf (key : String) (pairs : List (String × String)) : List String :=
  (pairs.filter fun p => Text.lower p.1 = key).map Prod.snd

/-- The value of the first header that has the name, in lower case. -/
def firstOf? (name : String) (pairs : List (String × String)) : Option String :=
  (pairs.find? fun p => Text.lower p.1 = Text.lower name).map Prod.snd

/-! ## Groups -/

theorem values_lowered (key : String) (pairs : List (String × String)) :
    Keyed.values key (pairs.map fun (name, value) => (Text.lower name, value)) =
      valuesOf key pairs := by
  rw [Keyed.values, List.filter_map, List.map_map]
  rfl

theorem mem_group_iff {key : String} {vs : List String} :
    (key, vs) ∈ group pairs ↔ vs ≠ [] ∧ vs = valuesOf key pairs := by
  rw [group, Keyed.mem_group_iff, values_lowered]

theorem lookup_group (key : String) (pairs : List (String × String)) :
    (group pairs).lookup key =
      if valuesOf key pairs = [] then none else some (valuesOf key pairs) := by
  rw [group, Keyed.lookup_group, values_lowered]

theorem sum_length_group (pairs : List (String × String)) :
    ((group pairs).map fun entry => entry.2.length).sum = pairs.length := by
  rw [group, Keyed.sum_length_group, List.length_map]

theorem first?_group (name : String) (pairs : List (String × String)) :
    first? (group pairs) name = firstOf? name pairs := by
  have hhead : (valuesOf (Text.lower name) pairs).head? = firstOf? name pairs := by
    rw [valuesOf, List.head?_map, List.head?_filter, firstOf?]
  rw [first?, lookup_group, ← hhead]
  by_cases h : valuesOf (Text.lower name) pairs = []
  · rw [if_pos h, h]
    rfl
  · rw [if_neg h]
    rfl

/-! ## Other lists with the same values -/

/-- Headers with different names have changed places. -/
inductive Reordered (pairs : List (String × String)) : List (String × String) → Prop
  | refl : Reordered pairs pairs
  | swap {front back : List (String × String)} {p q : String × String} :
    Reordered pairs (front ++ p :: q :: back) → Text.lower p.1 ≠ Text.lower q.1 →
    Reordered pairs (front ++ q :: p :: back)

/-- The same name, or one that differs in the case of ASCII letters only. -/
def Recased (name name' : String) : Prop :=
  name = name' ∨ Text.IsAscii name ∧ Text.eqIgnoringAsciiCase name name' = true

/-- Some ASCII names are written in another case. -/
def Relettered (pairs pairs' : List (String × String)) : Prop :=
  List.Forall₂ (fun p p' => Recased p.1 p'.1 ∧ p.2 = p'.2) pairs pairs'

theorem Recased.lower_eq {name name' : String} (h : Recased name name') :
    Text.lower name = Text.lower name' := by
  rcases h with rfl | ⟨hascii, hcase⟩
  · rfl
  · exact Text.lower_eq_of_eqIgnoringAsciiCase hascii hcase

theorem Reordered.valuesOf_eq (h : Reordered pairs pairs') (key : String) :
    valuesOf key pairs = valuesOf key pairs' := by
  induction h with
  | refl => rfl
  | @swap front back p q _ hne ih =>
    rw [ih]
    unfold valuesOf
    by_cases hp : Text.lower p.1 = key
    · have hq : Text.lower q.1 ≠ key := fun hq => hne (hp.trans hq.symm)
      simp [hp, hq]
    · simp [List.filter_cons, hp]

theorem Relettered.valuesOf_eq (h : Relettered pairs pairs') (key : String) :
    valuesOf key pairs = valuesOf key pairs' := by
  induction h with
  | nil => rfl
  | @cons p p' rest rest' hp _ ih =>
    unfold valuesOf at ih ⊢
    rw [List.filter_cons, List.filter_cons, hp.1.lower_eq]
    split
    · rw [List.map_cons, List.map_cons, hp.2, ih]
    · exact ih

end Headers

/-! ## What a template reads -/

/-- The same exchange with other headers of the request. -/
def Context.withRequestHeaders (c : Context) (pairs : List (String × String)) : Context :=
  { c with request := { c.request with headers := Headers.group pairs } }

namespace Template

open Headers

variable {pairs pairs' : List (String × String)}

theorem Source.resolve_withRequestHeaders (h : ∀ key, valuesOf key pairs = valuesOf key pairs')
    (c : Context) (source : Source) (locator : String) :
    source.resolve (c.withRequestHeaders pairs) locator =
      source.resolve (c.withRequestHeaders pairs') locator := by
  cases source with
  | requestHeader =>
    have hgroup (pairs : List (String × String)) :
        (c.withRequestHeaders pairs).request.header? locator =
          (group pairs).lookup (Text.lower locator) >>= List.head? := rfl
    rw [resolve, resolve, Context.requestHeader, Context.requestHeader, hgroup, hgroup,
      lookup_group, lookup_group, h]
  | _ => rfl

theorem Source.resolve_withResponse (h : ∀ key, valuesOf key pairs = valuesOf key pairs')
    (c : Context) (status : UInt16) (body : ByteArray) (source : Source) (locator : String) :
    source.resolve (c.withResponse (Response.ofParts status pairs body)) locator =
      source.resolve (c.withResponse (Response.ofParts status pairs' body)) locator := by
  cases source with
  | responseHeader =>
    have hgroup (pairs : List (String × String)) :
        (c.withResponse (Response.ofParts status pairs body)).responseHeader locator =
          ((group pairs).lookup (Text.lower locator) >>= List.head?).getD "" := rfl
    rw [resolve, resolve, hgroup, hgroup, lookup_group, lookup_group, h]
  | _ => rfl

/-- No leaf of a template tells the two lists of headers apart, neither of a request, when it comes
in and later, nor of a response. -/
structure SameLeaves (pairs pairs' : List (String × String)) : Prop where
  arrival : ∀ (plugins : PluginTable) method uri body correlationId,
    resolveLeaf plugins (Context.new (Request.ofParts method uri pairs) body correlationId) =
      resolveLeaf plugins (Context.new (Request.ofParts method uri pairs') body correlationId)
  request : ∀ (plugins : PluginTable) (c : Context),
    resolveLeaf plugins (c.withRequestHeaders pairs) =
      resolveLeaf plugins (c.withRequestHeaders pairs')
  response : ∀ (plugins : PluginTable) (c : Context) status body,
    resolveLeaf plugins (c.withResponse (Response.ofParts status pairs body)) =
      resolveLeaf plugins (c.withResponse (Response.ofParts status pairs' body))

theorem sameLeaves_of_valuesOf_eq (h : ∀ key, valuesOf key pairs = valuesOf key pairs') :
    SameLeaves pairs pairs' where
  arrival _ method uri body correlationId :=
    resolveLeaf_congr (Source.resolve_withRequestHeaders h
      (Context.new (Request.ofParts method uri []) body correlationId))
  request _ c := resolveLeaf_congr (Source.resolve_withRequestHeaders h c)
  response _ c status body := resolveLeaf_congr (Source.resolve_withResponse h c status body)

/-- What reads a header by its name. -/
def Source.OfHeader (source : Source) : Prop := source = .requestHeader ∨ source = .responseHeader

theorem Source.resolve_recased {source : Source} (hsource : source.OfHeader) {name name' : String}
    (h : Recased name name') (c : Context) : source.resolve c name = source.resolve c name' := by
  have hfirst (headers : List (String × List String)) :
      first? headers name = first? headers name' := by
    rw [first?, first?, h.lower_eq]
  rcases hsource with rfl | rfl
  · simp only [resolve, Context.requestHeader, Request.header?, hfirst]
  · simp only [resolve, Context.responseHeader, Response.header?, hfirst]

namespace Expression

mutual

/-- Some names of headers are written in another case, at any depth. -/
inductive Respelled : Expression → Expression → Prop
  | read (source : Source) (locator : String) :
    Respelled (.read source locator) (.read source locator)
  | header {source : Source} {name name' : String} : source.OfHeader → Recased name name' →
    Respelled (.read source name) (.read source name')
  | call (name : String) {arguments arguments' : List Argument} :
    RespelledList arguments arguments' → Respelled (.call name arguments) (.call name arguments')

inductive RespelledArgument : Argument → Argument → Prop
  | literal (text : String) : RespelledArgument (.literal text) (.literal text)
  | nested {e e' : Expression} : Respelled e e' → RespelledArgument (.nested e) (.nested e')
  | malformed (raw : String) (error : ExpressionError) :
    RespelledArgument (.malformed raw error) (.malformed raw error)

inductive RespelledList : List Argument → List Argument → Prop
  | nil : RespelledList [] []
  | cons {a a' : Argument} {rest rest' : List Argument} : RespelledArgument a a' →
    RespelledList rest rest' → RespelledList (a :: rest) (a' :: rest')

end

variable (plugins : PluginTable) (c : Context)

mutual

theorem resolve_respelled : ∀ (e : Expression) {e' : Expression}, Respelled e e' →
    e.resolve plugins c = e'.resolve plugins c
  | .read source locator, _, h => by
    cases h with
    | read => rfl
    | header hsource hname =>
      rw [resolve, resolve, Source.resolve_recased hsource hname]
  | .call name arguments, _, h => by
    cases h with
    | call _ harguments => rw [resolve, resolve, resolveArguments_respelled arguments harguments]

theorem resolveArgument_respelled : ∀ (a : Argument) {a' : Argument}, RespelledArgument a a' →
    resolveArgument plugins c a = resolveArgument plugins c a'
  | .literal _, _, h => by
    cases h
    rfl
  | .nested e, _, h => by
    cases h with
    | nested he => rw [resolveArgument, resolveArgument, resolve_respelled e he]
  | .malformed _ _, _, h => by
    cases h
    rfl

theorem resolveArguments_respelled : ∀ (arguments : List Argument) {arguments' : List Argument},
    RespelledList arguments arguments' →
    resolveArguments plugins c arguments = resolveArguments plugins c arguments'
  | [], _, h => by
    cases h
    rfl
  | a :: rest, _, h => by
    cases h with
    | cons ha hrest =>
      rw [resolveArguments, resolveArguments, resolveArgument_respelled a ha,
        resolveArguments_respelled rest hrest]

end

end Expression

theorem resolveLeaf_recased {source : Source} (hsource : source.OfHeader) {name name' : String}
    (h : Recased name name') (plugins : PluginTable) (c : Context) :
    resolveLeaf plugins c (source.tag ++ "|" ++ name) =
      resolveLeaf plugins c (source.tag ++ "|" ++ name') := by
  have hleaf (name : String) :
      resolveLeaf plugins c (source.tag ++ "|" ++ name) = source.resolve c name := by
    rw [resolveLeaf, Expression.parse_eq_read_iff.mpr rfl]
    rfl
  rw [hleaf, hleaf, Source.resolve_recased hsource h]

/-- What becomes of a list of headers. -/
structure ReadByName (pairs : List (String × String)) : Prop where
  /-- A name in lower case has the values of the headers with that name, in their order. -/
  mem_iff : ∀ key vs, (key, vs) ∈ Headers.group pairs ↔ vs ≠ [] ∧ vs = valuesOf key pairs
  nodup : ((Headers.group pairs).map Prod.fst).Nodup
  total : ((Headers.group pairs).map fun entry => entry.2.length).sum = pairs.length
  request : ∀ method uri name,
    (Request.ofParts method uri pairs).header? name = firstOf? name pairs
  response : ∀ status body name,
    (Response.ofParts status pairs body).header? name = firstOf? name pairs
  reordered : ∀ pairs', Reordered pairs pairs' → SameLeaves pairs pairs'
  relettered : ∀ pairs', Relettered pairs pairs' → SameLeaves pairs pairs'
  /-- Neither does the case of a name in a template matter. -/
  recased : ∀ (source : Source) (name name' : String), source.OfHeader → Recased name name' →
    ∀ plugins c, resolveLeaf plugins c (source.tag ++ "|" ++ name) =
      resolveLeaf plugins c (source.tag ++ "|" ++ name')
  respelled : ∀ e e', Expression.Respelled e e' →
    ∀ plugins c, e.resolve plugins c = e'.resolve plugins c

/-- Headers are found by their names, whatever the case and the order of others. -/
theorem readByName (pairs : List (String × String)) : ReadByName pairs where
  mem_iff _ _ := Headers.mem_group_iff
  nodup := Keyed.nodup_group _
  total := Headers.sum_length_group pairs
  request _ _ name := first?_group name pairs
  response _ _ name := first?_group name pairs
  reordered _ h := sameLeaves_of_valuesOf_eq h.valuesOf_eq
  relettered _ h := sameLeaves_of_valuesOf_eq h.valuesOf_eq
  recased _ _ _ hsource h plugins c := resolveLeaf_recased hsource h plugins c
  respelled e _ h plugins c := e.resolve_respelled plugins c h

end Template
end ApiMapping
