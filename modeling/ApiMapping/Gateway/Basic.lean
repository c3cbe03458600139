import ApiMapping.Config.Loading
import ApiMapping.Exchange.Message
import ApiMapping.Routing.Basic
import ApiMapping.Template.Resolve

/-!
# The gateway

A gateway is built from a configuration that can be served. A request is looked up
among the endpoints, turned into a request to the target, and the target's answer
into a reply. Each of these steps is a function; nothing but the counters remains of
a request.
-/

namespace ApiMapping

/-- A mapping with its method in upper case and its router. -/
structure Endpoint where
  mapping : Mapping
  method : String
  router : Routing.Router

structure Gateway where
  settings : Settings
  endpoints : List Endpoint
  plugins : PluginTable

/-- A request as it comes in; the URI is a path with or without a query. -/
structure InboundRequest where
  method : String
  uri : String
  headers : List (String × String)
  body : ByteArray

/-- What the caller gets. -/
structure OutboundResponse where
  status : UInt16
  headers : List (String × String)
  body : ByteArray

namespace OutboundResponse

def ofJson (status : UInt16) (v : Json) : OutboundResponse :=
  ⟨status, [("content-type", "application/json")], v.text.toUTF8⟩

def ofError (status : UInt16) (message : String) : OutboundResponse :=
  ofJson status (.object [("error", .string message)])

def json? (r : OutboundResponse) : Option Json := Json.ofBytes? r.body

/-- The first value of a header; the case of ASCII letters does not matter. -/
def header? (r : OutboundResponse) (name : String) : Option String :=
  (r.headers.find? fun h => Text.eqIgnoringAsciiCase h.1 name).map Prod.snd

end OutboundResponse

namespace Endpoint

def compile (m : Mapping) : Except ConfigError Endpoint := do
  return ⟨m, Text.upper m.source.method, ← Routing.Router.compile m⟩

def name (e : Endpoint) : String := e.mapping.name

def accepts (e : Endpoint) (method path : String) : Bool :=
  e.mapping.source.url == path && Text.eqIgnoringAsciiCase e.method method

/-- The header of a target's request. A text that is no expression is sent as it is, and
one without a value is not sent. Values that are no texts are ignored. -/
def header? (plugins : PluginTable) (ctx : Context) (name : String) :
    Json → Option (String × String)
  | .string raw =>
    match Template.Expression.parse raw with
    | .ok e => (Template.plain? (e.resolve plugins ctx)).map fun v => (name, v)
    | .error _ => some (name, raw)
  | _ => none

def namesContentType (headers : List (String × String)) : Bool :=
  headers.any fun h => Text.eqIgnoringAsciiCase h.1 "content-type"

/-- The request to the target. A body is JSON unless a header says otherwise. -/
def targetRequest (e : Endpoint) (plugins : PluginTable) (ctx : Context) : TargetRequest :=
  let leaf := Template.resolveLeaf plugins ctx
  let target := e.mapping.target
  let templates := e.mapping.request
  let headers := target.headers.filterMap fun (name, value) => header? plugins ctx name value
  let withType :=
    if templates.body.isNull || namesContentType headers then headers
    else headers ++ [("Content-Type", "application/json")]
  { method := target.method
    url := Query.append target.url (Template.fillQuery leaf templates.query)
    headers := withType
    body :=
      if templates.body.isNull then none
      else some (Template.fill leaf templates.body).text.toUTF8 }

end Endpoint

namespace Configuration

/-- The endpoints of a configuration that can be served. -/
def endpoints (c : Configuration) : Except ConfigError (List Endpoint) := do
  c.validate
  c.mappings.mapM Endpoint.compile

end Configuration

namespace Gateway

/-- Build a gateway on a table of plugins. Bindings to instances that are not there
are left out. -/
def build (c : Configuration) (plugins : PluginTable) : Except ConfigError Gateway := do
  let endpoints ← c.endpoints
  return ⟨c.settings, endpoints, plugins.bindAll c.plugins⟩

/-- The gateway of a configuration's text. -/
def ofText (format : TextFormat) (s : String) (plugins : PluginTable) :
    Except LoadError Gateway := do
  let c ← Configuration.ofText format s
  (build c plugins).mapError .config

/-- The first endpoint that accepts a request. -/
def find? (g : Gateway) (method path : String) : Option Endpoint :=
  g.endpoints.find? fun e => e.accepts method path

/-- With debugging on, name the mapping and the milliseconds that it took. -/
def stamp (g : Gateway) (e : Endpoint) (elapsed : Nat) (r : OutboundResponse) :
    OutboundResponse :=
  if g.settings.debugHeaders then
    let time := String.ofList (Text.ofNat elapsed) ++ "ms"
    { r with headers := r.headers ++ [("X-Mapping-Endpoint", e.name), ("X-Mapping-Time", time)] }
  else r

end Gateway
end ApiMapping
