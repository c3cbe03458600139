import ApiMapping.Http.Syntax
import ApiMapping.Proofs.Exchange.Query
import Mathlib.Data.List.TakeWhile

/-!
# The path of a request that comes in over HTTP

The front takes the path from the parsed URI, the gateway takes it from the text of path and
query, up to the first question mark. Both find the same path, except that a URI without a
path has the path `/` for the front and an empty one for the gateway.
-/

namespace ApiMapping
namespace Http

/-- The text before the first question mark is the path, unless there is no path. -/
def RequestTarget.Agrees (t : RequestTarget) : Prop :=
  (Request.splitUri t.uri).1 = t.path ∨ t.path = "/" ∧ (Request.splitUri t.uri).1 = ""

/-- For any other path than `/` it makes no difference who looks. -/
theorem RequestTarget.Agrees.path_iff {t : RequestTarget} (h : t.Agrees) {path : String}
    (hroot : path ≠ "/") (hempty : path ≠ "") :
    (Request.splitUri t.uri).1 = path ↔ t.path = path := by
  rcases h with h | ⟨hpath, hsplit⟩
  · rw [h]
  · rw [hpath, hsplit]
    exact ⟨fun h => absurd h.symm hempty, fun h => absurd h.symm hroot⟩

namespace Uri

variable {cs : List Char} {t : RequestTarget}

/-- What stands before a fragment is split at its first question mark. -/
theorem eq_of_pathAndQuery? (h : pathAndQuery? cs = some t) :
    let whole := cs.takeWhile (· != '#')
    let path := ((Text.cut? '?' whole).getD (whole, [])).1
    t.path = (if path.isEmpty then "/" else String.ofList path) ∧
      t.uri = if whole.isEmpty then "/" else String.ofList whole := by
  simp only [pathAndQuery?, Option.ite_none_right_eq_some, Option.some.injEq] at h
  obtain ⟨-, rfl⟩ := h
  exact ⟨rfl, rfl⟩

theorem agrees_of_pathAndQuery? (h : pathAndQuery? cs = some t) : t.Agrees := by
  obtain ⟨hpath, huri⟩ := eq_of_pathAndQuery? h
  generalize cs.takeWhile (· != '#') = whole at hpath huri
  cases hcut : Text.cut? '?' whole with
  | some parts =>
    obtain ⟨path, query⟩ := parts
    obtain ⟨rfl, hmark⟩ := Text.cut?_eq_some hcut
    have hne : (path ++ '?' :: query).isEmpty = false := by cases path <;> rfl
    rw [hne, if_neg Bool.false_ne_true] at huri
    rw [hcut, Option.getD_some] at hpath
    have hsplit : (Request.splitUri t.uri).1 = String.ofList path := by
      rw [huri, Request.splitUri_of_mark hmark]
    cases path with
    | nil => exact .inr ⟨hpath, hsplit⟩
    | cons c path => exact .inl (hsplit.trans hpath.symm)
  | none =>
    have hmark := Text.cut?_eq_none_iff.mp hcut
    rw [hcut, Option.getD_none] at hpath
    have hsame : t.path = t.uri := hpath.trans huri.symm
    have hnone : '?' ∉ t.uri.toList := by
      rw [huri]
      split
      · decide
      · rwa [String.toList_ofList]
    refine .inl ?_
    rw [hsame, Request.splitUri_of_no_mark hnone]

theorem agrees_of_parse? {s : String} (h : parse? s = some t) : t.Agrees := by
  unfold parse? at h
  dsimp only at h
  split at h
  · cases h
  split at h
  · cases h
  · cases h
    exact .inl rfl
  · exact agrees_of_pathAndQuery? h
  · split at h
    · cases h
    · split at h
      · cases h
        exact .inl rfl
      · cases h
    · split at h
      · cases h
      · exact agrees_of_pathAndQuery? h

/-- A path with or without a query, alone and without a fragment, is not changed. -/
theorem uri_of_parse? {rest : List Char} (hfragment : '#' ∉ rest)
    (h : parse? (String.ofList ('/' :: rest)) = some t) : t.uri = String.ofList ('/' :: rest) := by
  have hwhole : ('/' :: rest).takeWhile (· != '#') = '/' :: rest := by
    rw [List.takeWhile_eq_self_iff]
    intro c hc
    rw [bne_iff_ne]
    rintro rfl
    rcases List.mem_cons.mp hc with h | h
    · cases h
    · exact hfragment h
  have hparsed : pathAndQuery? ('/' :: rest) = some t := by
    rw [parse?, String.toList_ofList] at h
    dsimp only at h
    split at h
    · cases h
    · exact h
  obtain ⟨-, huri⟩ := eq_of_pathAndQuery? hparsed
  rw [huri, hwhole]
  rfl

end Uri
end Http
end ApiMapping
