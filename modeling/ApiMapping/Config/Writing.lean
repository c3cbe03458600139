import ApiMapping.Config.Basic
import ApiMapping.Json.Basic

/-!
# Writing a configuration

A configuration as JSON, with every field in its place. A section that is not there
is null. Rules for one locator stay apart, so the object of the rules may repeat a
name.
-/

namespace ApiMapping

namespace Settings

def toJson (s : Settings) : Json := .object [
  ("listen_address", .string s.listenAddress),
  ("target_timeout_ms", Json.ofNat s.targetTimeout.toNat),
  ("max_body_size", Json.ofNat s.maxBodySize.toNat),
  ("debug_headers", .bool s.debugHeaders)]

end Settings

namespace SourceContract

def toJson (s : SourceContract) : Json := .object [
  ("url", .string s.url), ("method", .string s.method)]

end SourceContract

namespace TargetContract

def toJson (t : TargetContract) : Json := .object [
  ("url", .string t.url), ("method", .string t.method), ("headers", .object t.headers)]

end TargetContract

namespace RequestTemplates

def toJson (r : RequestTemplates) : Json := .object [
  ("queryParam", .object r.query), ("requestBody", r.body)]

end RequestTemplates

namespace Reply

def toJson (r : Reply) : Json := .object [
  ("http_status_code", Json.ofNat r.status.toNat), ("json_body", r.body)]

def wrap (r : Reply) : Json := .object [("response", r.toJson)]

end Reply

namespace StatusSection

def toJson (s : StatusSection) : Json := .object [
  ("default", s.fallback.wrap),
  ("custom", .object (s.custom.map fun (key, reply) => (key, reply.wrap)))]

end StatusSection

namespace BodyCase

def toJson (c : BodyCase) : Json := .object [
  ("values", .array (c.values.map .string)), ("response", c.reply.toJson)]

end BodyCase

namespace BodySection

def toJson (s : BodySection) : Json := .object [
  ("default", s.fallback.wrap),
  ("custom", .object (s.rules.map fun r => (r.locator, .array (r.cases.map (·.toJson)))))]

end BodySection

namespace ResponseTemplates

def toJson (r : ResponseTemplates) : Json := .object [
  ("byHTTPStatusCode", (r.byStatus.map (·.toJson)).getD .null),
  ("byBodyResponse", (r.byBody.map (·.toJson)).getD .null)]

end ResponseTemplates

namespace Mapping

def toJson (m : Mapping) : Json := .object [
  ("name", .string m.name),
  ("responseMappingType", .string m.strategy.name),
  ("source", m.source.toJson),
  ("target", m.target.toJson),
  ("requestMapping", m.request.toJson),
  ("responseMapping", m.response.toJson)]

end Mapping

namespace PluginBinding

def toJson (p : PluginBinding) : Json := .object [
  ("name", .string p.name), ("path", .string p.path), ("instanceName", .string p.instanceName)]

end PluginBinding

namespace Configuration

def toJson (c : Configuration) : Json := .object [
  ("version", .string c.version),
  ("settings", c.settings.toJson),
  ("apiMappings", .array (c.mappings.map (·.toJson))),
  ("pluginConfigs", .array (c.plugins.map (·.toJson)))]

end Configuration
end ApiMapping
