import ApiMapping.CommandLine.Texts
import ApiMapping.Gateway.Basic
import ApiMapping.Http.SocketAddress

/-!
# Running the program

From the arguments to an outcome. Only the text of the configuration file comes from
outside, through a function in a monad of the caller's choice.
-/

namespace ApiMapping
namespace CommandLine

inductive Failure where
  | unreadable (path : String)
  | badText (path : String) (format : TextFormat) (e : LoadError)
  | badAddress (address : String)
  | refused (e : ConfigError)
deriving Repr

/-- How a run of the program ends, or that it goes on and serves. -/
inductive Outcome where
  | shown (text : String)
  | misused (e : UsageError)
  | failed (e : Failure)
  | valid
  | serve (address : Http.SocketAddress) (c : Configuration)
deriving Repr

namespace Failure

def message : Failure → String
  | .unreadable path => s!"Failed to read config file: {path}"
  | .badText path format _ => s!"Failed to parse {format.name} config: {path}"
  | .badAddress _ => "Invalid listen address format (expected host:port)"
  | .refused e => (LoadError.config e).message

/-- The reason behind the message, if there is one to tell. -/
def cause? : Failure → Option String
  | .badText _ _ e => some e.message
  | .badAddress _ => some "invalid socket address syntax"
  | _ => none

def report (e : Failure) : String :=
  let cause := match e.cause? with
    | some text => s!"\nCaused by:\n    {text}\n"
    | none => ""
  s!"Error: {e.message}\n{cause}"

end Failure

namespace UsageError

def report (e : UsageError) : String :=
  s!"error: {e.message}\n\n{usageText}\n\nFor more information, try '--help'.\n"

end UsageError

namespace Outcome

def code : Outcome → UInt32
  | .shown _ => 0
  | .misused _ => 2
  | .failed _ => 1
  | .valid => 0
  | .serve .. => 0

def output : Outcome → String
  | .shown text => text
  | _ => ""

def errors : Outcome → String
  | .misused e => e.report
  | .failed e => e.report
  | _ => ""

end Outcome

/-- What follows the last point in the last name of a path. A point that starts the
name does not count. -/
def extension? (path : String) : Option String :=
  let name := path.toList.reverse.takeWhile (· ≠ '/')
  match Text.cut? '.' name with
  | some (_, []) => none
  | some (ending, _) => some (String.ofList ending.reverse)
  | none => none

/-- Files are JSON unless their names say YAML. -/
def formatOf (path : String) : TextFormat :=
  match extension? path with
  | some "yaml" => .yaml
  | some "yml" => .yaml
  | _ => .json

namespace Choices

def load (c : Choices) (text : Option String) : Except Failure Configuration := do
  let some text := text | throw (.unreadable c.config)
  let format := formatOf c.config
  let configuration ← (Configuration.ofText format text).mapError (.badText c.config format)
  match c.listen with
  | some address =>
    return { configuration with
      settings := { configuration.settings with listenAddress := address } }
  | none => return configuration

/-- The address only matters to who serves, and is looked at before the mappings. -/
def conclude (c : Choices) (text : Option String) : Except Failure Outcome := do
  let configuration ← c.load text
  if c.validate then
    let _ ← configuration.endpoints.mapError .refused
    return .valid
  let address := configuration.settings.listenAddress
  let some parsed := Http.SocketAddress.parse? address | throw (.badAddress address)
  let _ ← configuration.endpoints.mapError .refused
  return .serve parsed configuration

end Choices

/-- Run the program on its arguments. -/
def run [Monad m] (env : Environment) (readFile : String → m (Option String))
    (args : List String) : m Outcome :=
  match Choices.parse env args with
  | .error .help => return .shown (helpText env)
  | .error .version => return .shown versionText
  | .error (.misuse e) => return .misused e
  | .ok c =>
    if c.exampleConfig then return .shown (exampleConfiguration ++ "\n")
    else do
      match c.conclude (← readFile c.config) with
      | .ok outcome => return outcome
      | .error e => return .failed e

end CommandLine
end ApiMapping
