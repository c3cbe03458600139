import ApiMapping.CommandLine.Options

/-!
# What the program tells about itself

Its version, how it is called, and a configuration to start from.
-/

namespace ApiMapping
namespace CommandLine

def programName : String := "mapping-gateway"

def versionText : String := s!"{programName} 0.1.0\n"

def usageText : String := s!"Usage: {programName} [OPTIONS]"

namespace Parameter

def about : Parameter → String
  | .setting .config => "Configuration file path (YAML or JSON)"
  | .setting .listen => "Address to listen on (overrides settings.listen_address)"
  | .setting .logLevel => "Log level (trace, debug, info, warn, error)"
  | .flag .jsonLogs => "Output logs as JSON"
  | .flag .exampleConfig => "Print example configuration and exit"
  | .flag .validate => "Validate configuration and exit"
  | .flag .help => "Print help"
  | .flag .version => "Print version"

/-- The letter and the name, in columns. -/
def spelling (p : Parameter) : String :=
  match p.letter? with
  | some c => s!"-{c}, {p.label}"
  | none => s!"    {p.label}"

/-- Where a value comes from that no argument gives. -/
def sources (env : Environment) : Parameter → List String
  | .flag _ => []
  | .setting s =>
    let environment := s.environmentName?.map fun name =>
      let value := (env s).getD ""
      s!"[env: {name}={value}]"
    let fallback := s.default?.map fun value => s!"[default: {value}]"
    environment.toList ++ fallback.toList

end Parameter

/-- The first column of the options is as wide as the widest spelling. -/
def helpText (env : Environment) : String :=
  let width := (Parameter.all.map (·.spelling.length)).foldl max 0
  let line (p : Parameter) : String :=
    let gap := String.ofList (List.replicate (width - p.spelling.length + 2) ' ')
    let about := String.intercalate " " (p.about :: p.sources env)
    s!"  {p.spelling}{gap}{about}\n"
  s!"Configuration-driven API mapping gateway\n\n{usageText}\n\nOptions:\n" ++
    String.join (Parameter.all.map line)

def exampleLines : List String := [
  "# Mapping Gateway Configuration Example",
  "version: \"1\"",
  "",
  "settings:",
  "  # Address the HTTP listener binds to",
  "  listen_address: \"0.0.0.0:8082\"",
  "  # Timeout for a single target call (ms)",
  "  target_timeout_ms: 30000",
  "  # Maximum inbound body size (bytes)",
  "  max_body_size: 10485760  # 10MB",
  "  # Enable debug headers (X-Mapping-Endpoint, X-Mapping-Time)",
  "  debug_headers: false",
  "",
  "apiMappings:",
  "  # Route on the target's status code",
  "  - name: \"user-lookup\"",
  "    responseMappingType: byHTTPStatusCode",
  "    source:",
  "      url: \"/v1/users\"",
  "      method: \"GET\"",
  "    target:",
  "      url: \"http://localhost:8081/api/users/search\"",
  "      method: \"POST\"",
  "      headers:",
  "        X-Api-Key: \"src:req_header|x-api-key\"",
  "    requestMapping:",
  "      queryParam:",
  "        lang: \"src:query|lang\"",
  "      requestBody:",
  "        transaction_id: \"src:func|trx()\"",
  "        user_id: \"src:query|id\"",
  "    responseMapping:",
  "      byHTTPStatusCode:",
  "        default:",
  "          response:",
  "            http_status_code: 502",
  "            json_body:",
  "              ok: \"src:static|false\"",
  "        custom:",
  "          \"200\":",
  "            response:",
  "              json_body:",
  "                ok: \"src:static|true\"",
  "                name: \"src:res_body|data.name\"",
  "",
  "  # Route on a field of the target's body",
  "  - name: \"sim-swap\"",
  "    responseMappingType: byBodyResponse",
  "    source:",
  "      url: \"/v1/sim-swap/check\"",
  "      method: \"POST\"",
  "    target:",
  "      url: \"http://localhost:8081/digihub/subscheck/simswapv2\"",
  "      method: \"POST\"",
  "    requestMapping:",
  "      requestBody:",
  "        msisdn: \"src:req_body|phoneNumber\"",
  "    responseMapping:",
  "      byBodyResponse:",
  "        default:",
  "          response:",
  "            http_status_code: 500",
  "            json_body:",
  "              error: \"src:static|unexpected response\"",
  "        custom:",
  "          status_code:",
  "            - values: [\"20005\", \"20006\"]",
  "              response:",
  "                http_status_code: 400",
  "                json_body: \"src:res_body|status_desc\"",
  "          data.score:",
  "            - values: [\"1\", \"2\", \"3\", \"4\"]",
  "              response:",
  "                http_status_code: 200",
  "                json_body:",
  "                  swapped: \"src:func|sim_swap(src:req_body|maxAge, src:res_body|data.score)\"",
  "",
  "pluginConfigs:",
  "  - name: \"trx\"",
  "    path: \"plugins/generate_transaction_id_plugin.so\"",
  "    instanceName: \"GenerateTransactionIDPluginInstance\"",
  "  - name: \"sim_swap\"",
  "    path: \"plugins/sim_swap_plugin.so\"",
  "    instanceName: \"SimSwapPluginInstance\""]

/-- A configuration with one mapping of either strategy. -/
def exampleConfiguration : String := String.join (exampleLines.map (· ++ "\n"))

end CommandLine
end ApiMapping
