import ApiMapping.Exchange.Context
import ApiMapping.Plugin.Basic
import ApiMapping.Template.Expression
import ApiMapping.Template.Locator

/-!
# The value of a template

The leaves of a template are expressions, and each is replaced by its value.
-/

namespace ApiMapping
namespace Template

/-! ## The value of an expression

What a source does not have is empty, or null where it is a value of a body. The
arguments of a call are values themselves, and one that could not be read is null.
-/

/-- A text in a template as a value: a truth value, an integer, or the text itself. -/
def coerce (text : String) : Json :=
  if text = "true" then .bool true
  else if text = "false" then .bool false
  else
    match Text.signed? text.toList with
    | some i => Json.ofInt i
    | none => .string text

namespace Source

def resolve (ctx : Context) (locator : String) : Source → Json
  | .static => coerce locator
  | .query => .string (ctx.parameter locator)
  | .requestHeader => .string (ctx.requestHeader locator)
  | .responseHeader => .string (ctx.responseHeader locator)
  | .requestBody => (ctx.requestJson? >>= fun v => select v locator).getD .null
  | .responseBody => (ctx.responseJson? >>= fun v => select v locator).getD .null

end Source

namespace Expression

mutual

def resolve (plugins : PluginTable) (ctx : Context) : Expression → Json
  | .read source locator => source.resolve ctx locator
  | .call name arguments => plugins.invoke name (resolveArguments plugins ctx arguments)

def resolveArgument (plugins : PluginTable) (ctx : Context) : Argument → Json
  | .literal text => .string text
  | .nested expression => expression.resolve plugins ctx
  | .malformed _ _ => .null

def resolveArguments (plugins : PluginTable) (ctx : Context) : List Argument → List Json
  | [] => []
  | a :: rest => resolveArgument plugins ctx a :: resolveArguments plugins ctx rest

end

end Expression

/-- The value of a leaf. A leaf that is no expression is null. -/
def resolveLeaf (plugins : PluginTable) (ctx : Context) (leaf : String) : Json :=
  match Expression.parse leaf with
  | .ok e => e.resolve plugins ctx
  | .error _ => .null

/-! ## Filling a template

A template is a JSON value. Its strings are leaves and are replaced by their values;
everything else is copied. In an array only objects are looked into, so strings and
arrays directly in an array stay as they are.
-/

mutual

/-- Replace the leaves of a template. -/
def fill (leaf : String → Json) : Json → Json
  | .string s => leaf s
  | .array items => .array (fillItems leaf items)
  | .object members => .object (fillMembers leaf members)
  | v => v

def fillItems (leaf : String → Json) : List Json → List Json
  | [] => []
  | .object members :: rest => .object (fillMembers leaf members) :: fillItems leaf rest
  | v :: rest => v :: fillItems leaf rest

def fillMembers (leaf : String → Json) : List (String × Json) → List (String × Json)
  | [] => []
  | (name, value) :: rest => (name, fill leaf value) :: fillMembers leaf rest

end

/-- A value as the text of a parameter or header; null is none. -/
def plain? : Json → Option String
  | .null => none
  | v => some v.plainText

/-- The parameters that a template of them gives. -/
def fillQuery (leaf : String → Json) (members : List (String × Json)) : List (String × String) :=
  members.filterMap fun (name, value) => (plain? (fill leaf value)).map fun v => (name, v)

end Template
end ApiMapping
