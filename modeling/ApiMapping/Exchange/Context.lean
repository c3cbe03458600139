import ApiMapping.Exchange.Message
import ApiMapping.Json.Reader

/-!
# What a template can read

One request, and once the target has answered, its response. The value that a body
spells as JSON is found when somebody first asks for it, and kept from then on. With a
new response, what was found of the one before is forgotten.
-/

namespace ApiMapping

/-- The value that the bytes of a body spell; `none` if there are none or they are no JSON. -/
def Body.parse (bytes : ByteArray) : Option Json :=
  if bytes.isEmpty then none else Json.ofBytes? bytes

/-- A request without its body. -/
structure Request where
  method : String
  path : String
  queryString : Option String
  parameters : List (String × List String)
  headers : List (String × List String)

namespace Request

/-- The path of a URI, and what follows its first question mark. -/
def splitUri (uri : String) : String × Option String :=
  match Text.cut? '?' uri.toList with
  | some (path, query) => (String.ofList path, some (String.ofList query))
  | none => (uri, none)

def ofParts (method uri : String) (headers : List (String × String)) : Request :=
  let (path, query) := splitUri uri
  ⟨method, path, query, Query.parameters query, Headers.group headers⟩

def header? (r : Request) (name : String) : Option String := Headers.first? r.headers name

end Request

structure Response where
  status : UInt16
  headers : List (String × List String)
  body : ByteArray

namespace Response

def ofParts (status : UInt16) (headers : List (String × String)) (body : ByteArray) : Response :=
  ⟨status, Headers.group headers, body⟩

def header? (r : Response) (name : String) : Option String := Headers.first? r.headers name

end Response

structure Context where
  request : Request
  requestBody : ByteArray
  response : Option Response
  /-- What the body of the request was found to spell; `none` before anybody has asked. -/
  requestFound : Option (Option Json)
  /-- The same of the body of the response. -/
  responseFound : Option (Option Json)
  /-- Ties together what is said about one request. -/
  correlationId : String

namespace Context

def new (request : Request) (body : ByteArray) (correlationId : String) : Context where
  request := request
  requestBody := body
  response := none
  requestFound := none
  responseFound := none
  correlationId := correlationId

/-- The context after the target has answered. -/
def withResponse (c : Context) (response : Response) : Context :=
  { c with response := some response, responseFound := none }

/-- The first value of a query parameter, empty if there is none. -/
def parameter (c : Context) (name : String) : String :=
  (c.request.parameters.lookup name >>= List.head?).getD ""

def requestHeader (c : Context) (name : String) : String := (c.request.header? name).getD ""

def responseHeader (c : Context) (name : String) : String :=
  (c.response >>= (·.header? name)).getD ""

def requestJson? (c : Context) : Option Json := c.requestFound.getD (Body.parse c.requestBody)

def responseJson? (c : Context) : Option Json :=
  c.response >>= fun r => c.responseFound.getD (Body.parse r.body)

/-- What reads a context, which keeps the values that are found on the way. -/
abbrev Reading := StateM Context

def readRequestJson : Reading (Option Json) := do
  let c ← get
  let v := c.requestJson?
  set { c with requestFound := some v }
  return v

/-- Before there is a response, nothing is found. -/
def readResponseJson : Reading (Option Json) := do
  let c ← get
  match c.response with
  | none => return none
  | some r =>
    let v := c.responseFound.getD (Body.parse r.body)
    set { c with responseFound := some v }
    return v

/-- The same context, the values of its bodies found. -/
def remember (c : Context) : Context := ((readRequestJson *> readResponseJson).run c).2

@[simp] theorem requestJson?_remember (c : Context) :
    c.remember.requestJson? = c.requestJson? := by
  obtain ⟨_, _, response, _, _, _⟩ := c
  cases response <;> rfl

@[simp] theorem responseJson?_remember (c : Context) :
    c.remember.responseJson? = c.responseJson? := by
  obtain ⟨_, _, response, _, _, _⟩ := c
  cases response <;> rfl

end Context
end ApiMapping
