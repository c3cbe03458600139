import ApiMapping.Config.Basic
import ApiMapping.Document.Record
import ApiMapping.Json.Reader

/-!
# Reading a configuration

The shape of a configuration document: its records, their fields, and what stands for
a field that is not there.
-/

namespace ApiMapping

open Document

/-- Members whose names are all different; the last of a repeated name counts. -/
def readTable (read : Node → Except ReadError α) (node : Node) :
    Except ReadError (List (String × α)) :=
  Node.collapse <$> node.entries "a map" read

def readMembers : Node → Except ReadError (List (String × Json)) := readTable Node.json

def readUInt64 (expected : String) (node : Node) : Except ReadError UInt64 :=
  UInt64.ofNat <$> node.natural UInt64.size expected

def readStatus (node : Node) : Except ReadError UInt16 :=
  UInt16.ofNat <$> node.natural UInt16.size "u16"

namespace Settings

def record : Record Settings where
  label := "Settings"
  blank := default
  fields := [
    .defaulted "listen_address" Node.text fun v s => { s with listenAddress := v },
    .defaulted "target_timeout_ms" (readUInt64 "u64") fun v s => { s with targetTimeout := v },
    .defaulted "max_body_size" (readUInt64 "usize") fun v s => { s with maxBodySize := v },
    .defaulted "debug_headers" Node.bool fun v s => { s with debugHeaders := v }]

end Settings

namespace SourceContract

def record : Record SourceContract where
  label := "SourceContract"
  blank := ⟨"", ""⟩
  fields := [
    .needed "url" Node.text fun v s => { s with url := v },
    .needed "method" Node.text fun v s => { s with method := v }]

end SourceContract

namespace TargetContract

def record : Record TargetContract where
  label := "TargetContract"
  blank := ⟨"", "", []⟩
  fields := [
    .needed "url" Node.text fun v t => { t with url := v },
    .needed "method" Node.text fun v t => { t with method := v },
    .defaulted "headers" readMembers fun v t => { t with headers := v }]

end TargetContract

namespace RequestTemplates

def record : Record RequestTemplates where
  label := "RequestMapping"
  blank := ⟨[], .null⟩
  fields := [
    .defaulted "queryParam" readMembers fun v r => { r with query := v },
    .defaulted "requestBody" Node.json fun v r => { r with body := v }]

end RequestTemplates

namespace Reply

def record : Record Reply where
  label := "ResponseSpec"
  blank := ⟨200, .null⟩
  fields := [
    .defaulted "http_status_code" readStatus fun v r => { r with status := v },
    .defaulted "json_body" Node.json fun v r => { r with body := v }]

/-- A reply inside a record of its own. -/
def wrapped : Record Reply where
  label := "ResponseCase"
  blank := ⟨200, .null⟩
  fields := [.needed "response" record.read fun v _ => v]

end Reply

/-- The text that a value is compared by. Only scalars can be compared. -/
def readMatchValue (node : Node) : Except ReadError String := do
  match ← node.json with
  | .string s => return s
  | .number n => return (Json.number n).text
  | .bool b => return (Json.bool b).text
  | v => throw (.unsupportedMatch v)

namespace BodyCase

def record : Record BodyCase where
  label := "BodyResponse"
  blank := ⟨[], ⟨200, .null⟩⟩
  fields := [
    .needed "values" (Node.list "a list of strings, numbers or booleans" readMatchValue)
      fun v c => { c with values := v },
    .needed "response" Reply.record.read fun v c => { c with reply := v }]

end BodyCase

namespace StatusSection

def record : Record StatusSection where
  label := "ByHttpStatusCode"
  blank := ⟨⟨200, .null⟩, []⟩
  fields := [
    .needed "default" Reply.wrapped.read fun v s => { s with fallback := v },
    .defaulted "custom" (readTable Reply.wrapped.read) fun v s => { s with custom := v }]

end StatusSection

namespace BodySection

/-- The rules in the order of the document, repeated locators included. -/
def readRules (node : Node) : Except ReadError (List BodyRule) := do
  let entries ← node.entries "a map of field locator to response cases"
    (Node.list "a sequence" BodyCase.record.read)
  return entries.map fun (locator, cases) => ⟨locator, cases⟩

def record : Record BodySection where
  label := "ByBodyResponse"
  blank := ⟨⟨200, .null⟩, []⟩
  fields := [
    .needed "default" Reply.wrapped.read fun v s => { s with fallback := v },
    .defaulted "custom" readRules fun v s => { s with rules := v }]

end BodySection

namespace ResponseTemplates

def record : Record ResponseTemplates where
  label := "ResponseMapping"
  blank := ⟨none, none⟩
  fields := [
    .defaulted "byHTTPStatusCode" (Node.optional StatusSection.record.read)
      fun v r => { r with byStatus := v },
    .defaulted "byBodyResponse" (Node.optional BodySection.record.read)
      fun v r => { r with byBody := v }]

end ResponseTemplates

namespace Mapping

def record : Record Mapping where
  label := "EndpointMapping"
  blank :=
    ⟨"", .byStatus, SourceContract.record.blank, TargetContract.record.blank,
      RequestTemplates.record.blank, ResponseTemplates.record.blank⟩
  fields := [
    .needed "name" Node.text fun v m => { m with name := v },
    .defaulted "responseMappingType" (Node.variant Strategy.byName)
      fun v m => { m with strategy := v },
    .needed "source" SourceContract.record.read fun v m => { m with source := v },
    .needed "target" TargetContract.record.read fun v m => { m with target := v },
    .defaulted "requestMapping" RequestTemplates.record.read fun v m => { m with request := v },
    .defaulted "responseMapping" ResponseTemplates.record.read
      fun v m => { m with response := v }]

end Mapping

namespace PluginBinding

def record : Record PluginBinding where
  label := "PluginConfig"
  blank := ⟨"", "", ""⟩
  fields := [
    .needed "name" Node.text fun v p => { p with name := v },
    .defaulted "path" Node.text fun v p => { p with path := v },
    .needed "instanceName" Node.text fun v p => { p with instanceName := v }]

end PluginBinding

namespace Configuration

def record : Record Configuration where
  label := "GatewayConfig"
  blank := default
  fields := [
    .defaulted "version" Node.text fun v c => { c with version := v },
    .defaulted "settings" Settings.record.read fun v c => { c with settings := v },
    .defaulted "apiMappings" (Node.list "a sequence" Mapping.record.read)
      fun v c => { c with mappings := v },
    .defaulted "pluginConfigs" (Node.list "a sequence" PluginBinding.record.read)
      fun v c => { c with plugins := v }]

def ofDocument (node : Node) : Except ReadError Configuration := record.read node

end Configuration
end ApiMapping
