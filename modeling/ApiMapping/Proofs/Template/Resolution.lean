import ApiMapping.Template.Resolve

/-!
# What the value of an expression depends on

An expression reads its context through its sources only, at every depth of its calls. Two
contexts whose sources give the same texts and values give the same leaves.
-/

namespace ApiMapping
namespace Template
namespace Expression

/-- The expression reads the source, itself or in an argument at some depth. -/
inductive Reads (source : Source) : Expression → Prop where
  | read (locator : String) : Reads source (.read source locator)
  | argument {name : String} {arguments : List Argument} {e : Expression} :
    .nested e ∈ arguments → Reads source e → Reads source (.call name arguments)

variable {plugins : PluginTable} {ctx ctx' : Context}

mutual

/-- Only the sources that an expression reads matter. -/
theorem resolve_congr_of_reads : ∀ e : Expression,
    (∀ source, e.Reads source →
      ∀ locator, source.resolve ctx locator = source.resolve ctx' locator) →
    e.resolve plugins ctx = e.resolve plugins ctx'
  | .read source locator, h => h source (.read locator) locator
  | .call name arguments, h => by
    rw [resolve, resolve, resolveArguments_congr_of_reads arguments]
    intro e he source hsource
    exact h source (.argument he hsource)

theorem resolveArgument_congr_of_reads : ∀ a : Argument,
    (∀ e, a = .nested e → ∀ source, e.Reads source →
      ∀ locator, source.resolve ctx locator = source.resolve ctx' locator) →
    resolveArgument plugins ctx a = resolveArgument plugins ctx' a
  | .literal _, _ => rfl
  | .nested e, h => by
    rw [resolveArgument, resolveArgument, resolve_congr_of_reads e (h e rfl)]
  | .malformed _ _, _ => rfl

theorem resolveArguments_congr_of_reads : ∀ arguments : List Argument,
    (∀ e, .nested e ∈ arguments → ∀ source, e.Reads source →
      ∀ locator, source.resolve ctx locator = source.resolve ctx' locator) →
    resolveArguments plugins ctx arguments = resolveArguments plugins ctx' arguments
  | [], _ => rfl
  | a :: rest, h => by
    have hfirst : resolveArgument plugins ctx a = resolveArgument plugins ctx' a := by
      apply resolveArgument_congr_of_reads a
      rintro e rfl
      exact h e List.mem_cons_self
    have hrest : resolveArguments plugins ctx rest = resolveArguments plugins ctx' rest := by
      apply resolveArguments_congr_of_reads rest
      intro e he
      exact h e (List.mem_cons_of_mem a he)
    rw [resolveArguments, resolveArguments, hfirst, hrest]

end

theorem resolve_congr
    (h : ∀ (source : Source) (locator : String),
      source.resolve ctx locator = source.resolve ctx' locator) (e : Expression) :
    e.resolve plugins ctx = e.resolve plugins ctx' :=
  resolve_congr_of_reads e fun source _ => h source

end Expression

theorem resolveLeaf_congr {plugins : PluginTable} {ctx ctx' : Context}
    (h : ∀ (source : Source) (locator : String),
      source.resolve ctx locator = source.resolve ctx' locator) :
    resolveLeaf plugins ctx = resolveLeaf plugins ctx' := by
  funext leaf
  unfold resolveLeaf
  split
  · exact Expression.resolve_congr h _
  · rfl

end Template
end ApiMapping
