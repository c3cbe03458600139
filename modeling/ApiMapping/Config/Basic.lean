import ApiMapping.Json.Basic
import ApiMapping.Plugin.Basic

/-!
# The configuration of a gateway

Every mapping takes one request that callers may send onto one request to a target,
and says which reply the caller gets for which answer of the target.
-/

namespace ApiMapping

structure Settings where
  listenAddress : String
  /-- The longest that a call to a target may take, in milliseconds. -/
  targetTimeout : UInt64
  /-- The largest body of a request, in bytes. -/
  maxBodySize : UInt64
  /-- Replies name the mapping and the time they took. -/
  debugHeaders : Bool
deriving DecidableEq, Repr, Inhabited

/-- Whether the target's status or a field of its body decides the reply. -/
inductive Strategy where
  | byStatus
  | byBody
deriving DecidableEq, Repr, Inhabited

structure SourceContract where
  url : String
  method : String
deriving DecidableEq, Repr, Inhabited

structure TargetContract where
  url : String
  method : String
  headers : List (String × Json)
deriving Repr, Inhabited

/-- What is sent to the target. No body is sent if its template is null. -/
structure RequestTemplates where
  query : List (String × Json)
  body : Json
deriving Repr, Inhabited

/-- A status and the template of a body. -/
structure Reply where
  status : UInt16
  body : Json
deriving Repr, Inhabited

/-- Replies by the text of the target's status. -/
structure StatusSection where
  fallback : Reply
  custom : List (String × Reply)
deriving Repr, Inhabited

/-- The reply if the field has one of the values. -/
structure BodyCase where
  values : List String
  reply : Reply
deriving Repr, Inhabited

/-- The cases for the field that a locator selects. -/
structure BodyRule where
  locator : String
  cases : List BodyCase
deriving Repr, Inhabited

/-- Replies by fields of the target's body; the rules keep their order, and a locator
may have several. -/
structure BodySection where
  fallback : Reply
  rules : List BodyRule
deriving Repr, Inhabited

structure ResponseTemplates where
  byStatus : Option StatusSection
  byBody : Option BodySection
deriving Repr, Inhabited

structure Mapping where
  name : String
  strategy : Strategy
  source : SourceContract
  target : TargetContract
  request : RequestTemplates
  response : ResponseTemplates
deriving Repr, Inhabited

structure Configuration where
  version : String
  settings : Settings
  mappings : List Mapping
  plugins : List PluginBinding
deriving Repr, Inhabited

namespace Settings

def default : Settings := ⟨"0.0.0.0:8082", 30000, 10485760, false⟩

end Settings

namespace Strategy

def name : Strategy → String
  | .byStatus => "byHTTPStatusCode"
  | .byBody => "byBodyResponse"

def byName : List (String × Strategy) :=
  [(byStatus.name, byStatus), (byBody.name, byBody)]

end Strategy

namespace Configuration

def default : Configuration := ⟨"1", Settings.default, [], []⟩

end Configuration
end ApiMapping
