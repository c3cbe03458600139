import ApiMapping.Gateway.Basic
import ApiMapping.Proofs.Keyed
import ApiMapping.Proofs.Text.Cut
import ApiMapping.Proofs.Text.Percent

/-!
# Parameters on their way to the target

The target reads a URL as the gateway reads the requests that come in. What it reads
are the parameters that the configured URL has itself and then the ones that the
template gives, each with its name and value as they were.
-/

namespace ApiMapping
namespace Query

/-- The signs that mean something in a query string. -/
def marks : List Char := ['+', '&', '=']

theorem not_mem_percentEncode_of_mem_marks {c : Char} (h : c ∈ marks) (cs : List Char) :
    c ∉ Text.percentEncode cs := by
  have hmark : c = '+' ∨ c = '&' ∨ c = '=' := by simpa [marks] using h
  rcases hmark with rfl | rfl | rfl
  all_goals exact Text.not_mem_percentEncode (by decide) (by decide) (by decide) cs

theorem map_spaced_of_not_mem {cs : List Char} (h : '+' ∉ cs) : cs.map spaced = cs := by
  have hchar : ∀ c ∈ cs, spaced c = id c := by
    intro c hc
    apply if_neg
    rintro rfl
    exact h hc
  rw [List.map_congr_left hchar, List.map_id]

theorem decode_percentEncode (cs : List Char) :
    decode (Text.percentEncode cs) = String.ofList cs := by
  rw [decode, map_spaced_of_not_mem (not_mem_percentEncode_of_mem_marks (by decide) cs),
    Text.percentDecode?_percentEncode, Option.getD_some]

theorem parameter?_encodePair (p : String × String) : parameter? (encodePair p) = some p := by
  have hname : '=' ∉ Text.percentEncode p.1.toList :=
    not_mem_percentEncode_of_mem_marks (by decide) _
  rw [parameter?, encodePair, Text.cut?_append hname]
  simp only [decode_percentEncode, String.ofList_toList]

theorem ampersand_not_mem_encodePair (p : String × String) : '&' ∉ encodePair p := by
  have hname : '&' ∉ Text.percentEncode p.1.toList :=
    not_mem_percentEncode_of_mem_marks (by decide) _
  have hvalue : '&' ∉ Text.percentEncode p.2.toList :=
    not_mem_percentEncode_of_mem_marks (by decide) _
  simp [encodePair, hname, hvalue]

/-- Parameters read back as they were written. -/
theorem pairs_encode {ps : List (String × String)} (h : ps ≠ []) : pairs (encode ps) = ps := by
  have hparts : Text.pieces '&' (encode ps) = ps.map encodePair := by
    apply Text.pieces_intercalate
    · simpa using h
    · intro part hpart
      obtain ⟨p, -, rfl⟩ := List.mem_map.mp hpart
      exact ampersand_not_mem_encodePair p
  rw [pairs, hparts, List.filterMap_map]
  have hread : parameter? ∘ encodePair = some := funext parameter?_encodePair
  rw [hread, List.filterMap_some]

theorem pairs_append_encode (query : List Char) {ps : List (String × String)} (h : ps ≠ []) :
    pairs (query ++ '&' :: encode ps) = pairs query ++ ps := by
  have hps := pairs_encode h
  unfold pairs at hps ⊢
  rw [Text.pieces_append, List.filterMap_append, hps]

/-- The parameters of a query string, which need not be there. -/
def ownPairs (query : Option String) : List (String × String) :=
  query.elim [] fun q => pairs q.toList

theorem parameters_eq_group (query : Option String) :
    parameters query = Keyed.group (ownPairs query) := by
  cases query <;> rfl

end Query

namespace Request

theorem splitUri_of_mark {path query : List Char} (h : '?' ∉ path) :
    splitUri (String.ofList (path ++ '?' :: query)) =
      (String.ofList path, some (String.ofList query)) := by
  rw [splitUri, String.toList_ofList, Text.cut?_append h]

theorem splitUri_of_no_mark {uri : String} (h : '?' ∉ uri.toList) : splitUri uri = (uri, none) := by
  rw [splitUri, Text.cut?_eq_none_iff.mpr h]

/-- Adding parameters to a URL leaves its path and puts them behind those it has. -/
theorem splitUri_append (url : String) (ps : List (String × String)) :
    (splitUri (Query.append url ps)).1 = (splitUri url).1 ∧
      Query.ownPairs (splitUri (Query.append url ps)).2 =
        Query.ownPairs (splitUri url).2 ++ ps := by
  cases ps with
  | nil => simp
  | cons p ps =>
    have hne : p :: ps ≠ [] := List.cons_ne_nil _ _
    cases hcut : Text.cut? '?' url.toList with
    | none =>
      have hmark := Text.cut?_eq_none_iff.mp hcut
      have hurl : Query.append url (p :: ps) =
          String.ofList (url.toList ++ '?' :: Query.encode (p :: ps)) := by
        simp [Query.append, hmark]
      rw [hurl, splitUri_of_mark hmark, splitUri_of_no_mark hmark]
      simp [Query.ownPairs, Query.pairs_encode hne]
    | some sides =>
      obtain ⟨path, query⟩ := sides
      obtain ⟨hchars, hpath⟩ := Text.cut?_eq_some hcut
      have hurl : Query.append url (p :: ps) =
          String.ofList (path ++ '?' :: (query ++ '&' :: Query.encode (p :: ps))) := by
        simp [Query.append, hchars]
      have hsplit : splitUri url = (String.ofList path, some (String.ofList query)) := by
        rw [splitUri, hcut]
      rw [hurl, splitUri_of_mark hpath, hsplit]
      simp [Query.ownPairs, Query.pairs_append_encode query hne]

end Request

namespace Endpoint

/-- The target reads the path of the configured URL, the parameters of that URL and then
exactly those that the template gives. -/
theorem parameters_targetRequest (e : Endpoint) (plugins : PluginTable) (ctx : Context)
    (method : String) (headers : List (String × String)) :
    let ps := Template.fillQuery (Template.resolveLeaf plugins ctx) e.mapping.request.query
    let own := Request.ofParts method e.mapping.target.url headers
    let sent := Request.ofParts method (e.targetRequest plugins ctx).url headers
    let all := Query.ownPairs own.queryString ++ ps
    sent.path = own.path ∧ Query.ownPairs sent.queryString = all ∧
      sent.parameters = Keyed.group all ∧
      ∀ name, sent.parameters.lookup name =
        if Keyed.values name all = [] then none else some (Keyed.values name all) := by
  intro ps own sent all
  obtain ⟨hpath, hpairs⟩ := Request.splitUri_append e.mapping.target.url ps
  have hgroup : sent.parameters = Keyed.group all := by
    have hread := Query.parameters_eq_group sent.queryString
    rwa [show Query.ownPairs sent.queryString = all from hpairs] at hread
  refine ⟨hpath, hpairs, hgroup, ?_⟩
  intro name
  rw [hgroup]
  exact Keyed.lookup_group name all

end Endpoint
end ApiMapping
