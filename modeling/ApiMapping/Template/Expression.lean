import ApiMapping.Template.Arguments

/-!
# Expressions of a template

A leaf of a template says where its value comes from, as `source|locator`, or which
plugin computes it, as `src:func|name(argument, …)`. An argument with the mark of a
source is an expression of its own, and any other argument is a plain text. A defect
in an argument stays in its place and does not spoil the call.
-/

namespace ApiMapping
namespace Template

/-- Where a value is looked up. -/
inductive Source where
  | static
  | query
  | requestHeader
  | responseHeader
  | requestBody
  | responseBody
deriving DecidableEq, Repr

inductive ExpressionError where
  | missingSeparator (text : String)
  | unknownScheme (tag : String)
  | malformedCall (locator : String)
deriving DecidableEq, Repr

mutual

inductive Expression where
  | read (source : Source) (locator : String)
  | call (name : String) (arguments : List Argument)

inductive Argument where
  | literal (text : String)
  | nested (expression : Expression)
  | malformed (raw : String) (error : ExpressionError)

end

deriving instance Repr for Expression, Argument

namespace Source

def all : List Source :=
  [.static, .query, .requestHeader, .responseHeader, .requestBody, .responseBody]

def tag : Source → String
  | .static => "src:static"
  | .query => "src:query"
  | .requestHeader => "src:req_header"
  | .responseHeader => "src:res_header"
  | .requestBody => "src:req_body"
  | .responseBody => "src:res_body"

def ofTag? (tag : String) : Option Source := all.find? fun s => s.tag == tag

end Source

/-- The tag of a call. -/
def callTag : String := "src:func"

/-- What all tags start with; it tells expressions from plain arguments. -/
def sourceMark : List Char := ['s', 'r', 'c', ':']

namespace ExpressionError

def message : ExpressionError → String
  | .missingSeparator text => s!"missing '|' separator in expression: {text}"
  | .unknownScheme tag => s!"unknown expression scheme: {tag}"
  | .malformedCall locator => s!"invalid function call format: {locator}"

end ExpressionError

namespace Expression

def tag : Expression → String
  | .read source _ => source.tag
  | .call _ _ => callTag

mutual

/-- The expression as it is written in a template. -/
def chars : Expression → List Char
  | .read source locator => source.tag.toList ++ '|' :: locator.toList
  | .call name arguments =>
    callTag.toList ++ '|' :: name.toList ++ '(' :: argumentListChars arguments ++ [')']

def argumentChars : Argument → List Char
  | .literal text => text.toList
  | .nested expression => expression.chars
  | .malformed raw _ => raw.toList

def argumentListChars : List Argument → List Char
  | [] => []
  | [a] => argumentChars a
  | a :: rest => argumentChars a ++ ',' :: argumentListChars rest

end

def render (e : Expression) : String := String.ofList e.chars

/-- The text of an argument, read as an expression if it has the mark of one. -/
def argumentOf (parsed : Except ExpressionError Expression) (raw : List Char) : Argument :=
  match Text.afterStart? sourceMark raw with
  | none => .literal (String.ofList raw)
  | some _ =>
    match parsed with
    | .ok e => .nested e
    | .error error => .malformed (String.ofList raw) error

theorem length_argument_lt {cs tag locator name a : List Char} {args : List (List Char)}
    (hcut : Text.cut? '|' cs = some (tag, locator)) (hparts : callParts? locator = some (name, args))
    (ha : a ∈ args) : a.length < cs.length := by
  have h := length_lt_of_callParts? hparts ha
  rw [(Text.cut?_eq_some hcut).1]
  simp only [List.length_append, List.length_cons]
  omega

/-- Read an expression. Its arguments are read the same way; they are shorter. -/
def parseChars (cs : List Char) : Except ExpressionError Expression :=
  match hcut : Text.cut? '|' cs with
  | none => .error (.missingSeparator (String.ofList cs))
  | some (tag, locator) =>
    match Source.ofTag? (String.ofList tag) with
    | some source => .ok (.read source (String.ofList locator))
    | none =>
      if tag = callTag.toList then
        match hparts : callParts? locator with
        | none => .error (.malformedCall (String.ofList locator))
        | some (name, args) =>
          .ok (.call (String.ofList name) (args.attach.map fun ⟨a, ha⟩ =>
            have := length_argument_lt hcut hparts ha
            argumentOf (parseChars a) a))
      else .error (.unknownScheme (String.ofList tag))
termination_by cs.length

def parse (s : String) : Except ExpressionError Expression := parseChars s.toList

end Expression

end Template
end ApiMapping
