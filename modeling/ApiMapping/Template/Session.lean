import ApiMapping.Template.Resolve

/-!
# Looking at one exchange again and again

Expressions and templates are evaluated one after another in the same context, and
between them the target may answer. A body is read as JSON when the first expression
asks for it; all that follow, however deep in a call they are, get what was found.
-/

namespace ApiMapping
namespace Template

open Context

def Source.evaluate (locator : String) : Source → Reading Json
  | .requestBody => return ((← readRequestJson) >>= fun v => select v locator).getD .null
  | .responseBody => return ((← readResponseJson) >>= fun v => select v locator).getD .null
  | source => return source.resolve (← get) locator

namespace Expression

mutual

def evaluate (plugins : PluginTable) : Expression → Reading Json
  | .read source locator => source.evaluate locator
  | .call name arguments => return plugins.invoke name (← evaluateArguments plugins arguments)

def evaluateArgument (plugins : PluginTable) : Argument → Reading Json
  | .literal text => return .string text
  | .nested expression => expression.evaluate plugins
  | .malformed _ _ => return .null

def evaluateArguments (plugins : PluginTable) : List Argument → Reading (List Json)
  | [] => return []
  | a :: rest => return (← evaluateArgument plugins a) :: (← evaluateArguments plugins rest)

end

end Expression

def evaluateLeaf (plugins : PluginTable) (leaf : String) : Reading Json :=
  match Expression.parse leaf with
  | .ok e => e.evaluate plugins
  | .error _ => return .null

mutual

/-- Fill a template, its leaves in their order. -/
def evaluate (plugins : PluginTable) : Json → Reading Json
  | .string s => evaluateLeaf plugins s
  | .array items => return .array (← evaluateItems plugins items)
  | .object members => return .object (← evaluateMembers plugins members)
  | v => return v

def evaluateItems (plugins : PluginTable) : List Json → Reading (List Json)
  | [] => return []
  | .object members :: rest =>
    return .object (← evaluateMembers plugins members) :: (← evaluateItems plugins rest)
  | v :: rest => return v :: (← evaluateItems plugins rest)

def evaluateMembers (plugins : PluginTable) :
    List (String × Json) → Reading (List (String × Json))
  | [] => return []
  | (name, value) :: rest =>
    return (name, ← evaluate plugins value) :: (← evaluateMembers plugins rest)

end

def evaluateQuery (plugins : PluginTable) (members : List (String × Json)) :
    Reading (List (String × String)) :=
  return (← evaluateMembers plugins members).filterMap fun (name, value) =>
    (plain? value).map fun v => (name, v)

/-- What is done with a context. -/
inductive Operation where
  | readRequest
  | readResponse
  | expression (e : Expression)
  | leaf (text : String)
  | template (t : Json)
  | query (members : List (String × Json))
  | respond (response : Response)

/-- What an operation gives. -/
inductive Answer where
  | body (v : Option Json)
  | value (v : Json)
  | parameters (ps : List (String × String))
  | accepted

def Operation.perform (plugins : PluginTable) : Operation → Reading Answer
  | .readRequest => return .body (← readRequestJson)
  | .readResponse => return .body (← readResponseJson)
  | .expression e => return .value (← e.evaluate plugins)
  | .leaf text => return .value (← evaluateLeaf plugins text)
  | .template t => return .value (← evaluate plugins t)
  | .query members => return .parameters (← evaluateQuery plugins members)
  | .respond response => do
    modify fun c => c.withResponse response
    return .accepted

/-- The answers of operations in a row. -/
def session (plugins : PluginTable) (operations : List Operation) : Reading (List Answer) :=
  operations.mapM fun operation => operation.perform plugins

end Template
end ApiMapping
