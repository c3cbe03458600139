import ApiMapping.Config.Basic
import ApiMapping.Text.Basic
import ApiMapping.Text.Digits
import ApiMapping.Text.LetterCase

/-!
# When a configuration can be served

Names, URLs and methods are not blank, the section that a mapping needs is there, all
its statuses can be sent, and no two mappings or plugins claim the same. The first
offending entry is reported.
-/

namespace ApiMapping

inductive ConfigError where
  | missingField (mapping field : String)
  | missingRouting (mapping : String) (strategy : Strategy)
  | invalidStatusKey (mapping key : String)
  | invalidStatusCode (mapping : String) (code : UInt16)
  | duplicateSource (method url : String)
  | duplicatePlugin (name : String)
deriving DecidableEq, Repr

namespace ConfigError

def message : ConfigError → String
  | .missingField mapping field => s!"mapping '{mapping}': missing required field '{field}'"
  | .missingRouting mapping strategy =>
    s!"mapping '{mapping}': responseMappingType is {strategy.name} but that section is missing"
  | .invalidStatusKey mapping key => s!"mapping '{mapping}': invalid status code key '{key}'"
  | .invalidStatusCode mapping code =>
    let digits := String.ofList (Text.ofNat code.toNat)
    s!"mapping '{mapping}': invalid http_status_code {digits}"
  | .duplicateSource method url => s!"duplicate source contract {method} {url}"
  | .duplicatePlugin name => s!"duplicate plugin name '{name}'"

end ConfigError

/-- The statuses that can be sent to a caller. -/
def isReplyStatus (code : UInt16) : Bool := 100 ≤ code && code ≤ 599

/-- The status that a key names. Only its shortest spelling names it. -/
def statusOfKey? (key : String) : Option UInt16 :=
  match Text.unsigned? UInt16.size key.toList with
  | some n =>
    let code := UInt16.ofNat n
    if Text.ofNat n = key.toList && isReplyStatus code then some code else none
  | none => none

namespace Mapping

/-- The fields that may not be blank, in the order in which they are looked at. -/
def requiredTexts (m : Mapping) : List (String × String) :=
  [("name", m.name), ("source.url", m.source.url), ("source.method", m.source.method),
   ("target.url", m.target.url), ("target.method", m.target.method)]

def checkTexts (m : Mapping) : Except ConfigError Unit :=
  match m.requiredTexts.find? fun (_, value) => Text.isBlankText value with
  | some (field, _) => .error (.missingField m.name field)
  | none => .ok ()

def checkReply (m : Mapping) (reply : Reply) : Except ConfigError Unit :=
  if isReplyStatus reply.status then .ok () else .error (.invalidStatusCode m.name reply.status)

def checkKey (m : Mapping) (key : String) : Except ConfigError UInt16 :=
  match statusOfKey? key with
  | some code => .ok code
  | none => .error (.invalidStatusKey m.name key)

def checkStatusSection (m : Mapping) (s : StatusSection) : Except ConfigError Unit := do
  m.checkReply s.fallback
  s.custom.forM fun (key, reply) => do
    let _ ← m.checkKey key
    m.checkReply reply

def checkBodySection (m : Mapping) (s : BodySection) : Except ConfigError Unit := do
  m.checkReply s.fallback
  s.rules.forM fun rule => rule.cases.forM fun c => m.checkReply c.reply

/-- Only the section of the mapping's strategy is looked at. -/
def checkSection (m : Mapping) : Except ConfigError Unit :=
  match m.strategy, m.response.byStatus, m.response.byBody with
  | .byStatus, some s, _ => m.checkStatusSection s
  | .byBody, _, some s => m.checkBodySection s
  | strategy, _, _ => .error (.missingRouting m.name strategy)

def check (m : Mapping) : Except ConfigError Unit := do
  m.checkTexts
  m.checkSection

/-- The request that a mapping claims; methods are compared in upper case. -/
def claim (m : Mapping) : String × String := (Text.upper m.source.method, m.source.url)

end Mapping

namespace PluginBinding

def check (p : PluginBinding) : Except ConfigError Unit :=
  if Text.isBlankText p.name then .error (.missingField "pluginConfigs" "name")
  else if Text.isBlankText p.instanceName then .error (.missingField p.name "instanceName")
  else .ok ()

end PluginBinding

namespace Configuration

/-- Check the mappings in order; `claimed` has what the ones before claim. -/
def checkMappings (claimed : List (String × String)) : List Mapping → Except ConfigError Unit
  | [] => .ok ()
  | m :: rest => do
    m.check
    if claimed.contains m.claim then throw (.duplicateSource m.claim.1 m.claim.2)
    checkMappings (m.claim :: claimed) rest

/-- Check the plugins in order; `named` has the names of the ones before. -/
def checkPlugins (named : List String) : List PluginBinding → Except ConfigError Unit
  | [] => .ok ()
  | p :: rest => do
    p.check
    if named.contains p.name then throw (.duplicatePlugin p.name)
    checkPlugins (p.name :: named) rest

def validate (c : Configuration) : Except ConfigError Unit := do
  checkMappings [] c.mappings
  checkPlugins [] c.plugins

end Configuration
end ApiMapping
