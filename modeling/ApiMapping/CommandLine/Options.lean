import ApiMapping.Text.Basic

/-!
# Options of the command line

Options are flags and settings. A setting has a value, attached to it or in the next
argument. Arguments are read in order and the first mistake decides; a value in an
argument of its own is looked at when the next option has been recognised.
-/

namespace ApiMapping
namespace CommandLine

inductive Setting where
  | config
  | listen
  | logLevel
deriving DecidableEq, Repr

inductive Flag where
  | jsonLogs
  | exampleConfig
  | validate
  | help
  | version
deriving DecidableEq, Repr

inductive Parameter where
  | setting (s : Setting)
  | flag (f : Flag)
deriving DecidableEq, Repr

inductive UsageError where
  | unexpected (argument : String)
  | unneededValue (value : String) (p : Parameter)
  | missingValue (s : Setting)
  | repeated (p : Parameter)
deriving DecidableEq, Repr

/-- Why the options are not read to their end. -/
inductive Halt where
  | help
  | version
  | misuse (e : UsageError)
deriving DecidableEq, Repr

namespace Setting

def name : Setting → String
  | .config => "config"
  | .listen => "listen"
  | .logLevel => "log-level"

def placeholder : Setting → String
  | .config => "CONFIG"
  | .listen => "LISTEN"
  | .logLevel => "LOG_LEVEL"

/-- The variable of the environment that stands in for the setting. -/
def environmentName? : Setting → Option String
  | .config => some "MAPPING_GATEWAY_CONFIG"
  | .listen => some "MAPPING_GATEWAY_LISTEN"
  | .logLevel => none

def default? : Setting → Option String
  | .config => some "config.json"
  | .listen => none
  | .logLevel => some "info"

/-- No path is empty; any other value may be. -/
def admits (s : Setting) (value : String) : Bool := s != .config || !value.isEmpty

end Setting

namespace Flag

def name : Flag → String
  | .jsonLogs => "json-logs"
  | .exampleConfig => "example-config"
  | .validate => "validate"
  | .help => "help"
  | .version => "version"

end Flag

namespace Parameter

def all : List Parameter := [
  .setting .config, .setting .listen, .flag .jsonLogs, .setting .logLevel,
  .flag .exampleConfig, .flag .validate, .flag .help, .flag .version]

def name : Parameter → String
  | .setting s => s.name
  | .flag f => f.name

def letter? : Parameter → Option Char
  | .setting .config => some 'c'
  | .flag .help => some 'h'
  | .flag .version => some 'V'
  | _ => none

/-- How help and messages show the option. -/
def label : Parameter → String
  | .setting s => s!"--{s.name} <{s.placeholder}>"
  | .flag f => s!"--{f.name}"

def ofName? (name : String) : Option Parameter := all.find? fun p => p.name = name

def ofLetter? (c : Char) : Option Parameter := all.find? fun p => p.letter? = some c

end Parameter

namespace UsageError

def message : UsageError → String
  | .unexpected argument => s!"unexpected argument '{argument}' found"
  | .unneededValue value p =>
    s!"unexpected value '{value}' for '{p.label}' found; no more were expected"
  | .missingValue s =>
    s!"a value is required for '{(Parameter.setting s).label}' but none was supplied"
  | .repeated p => s!"the argument '{p.label}' cannot be used multiple times"

end UsageError

/-- What has been read. A setting whose value is an argument of its own is open, at
first without the value. -/
structure Reading where
  settings : List (Setting × String)
  flags : List Flag
  current : Option (Setting × Option String)
deriving DecidableEq, Repr

namespace Reading

def start : Reading := ⟨[], [], none⟩

def value? (r : Reading) (s : Setting) : Option String := r.settings.lookup s

def accept (r : Reading) (s : Setting) (value : String) : Except Halt Reading :=
  if (r.value? s).isSome then .error (.misuse (.repeated (.setting s)))
  else if s.admits value then .ok { r with settings := (s, value) :: r.settings }
  else .error (.misuse (.missingValue s))

/-- Accept the value of the open setting. -/
def settle (r : Reading) : Except Halt Reading :=
  match r.current with
  | none => .ok r
  | some (s, none) => .error (.misuse (.missingValue s))
  | some (s, some value) => { r with current := none }.accept s value

def give (r : Reading) (s : Setting) (value : List Char) : Except Halt Reading := do
  let r ← r.settle
  r.accept s (String.ofList value)

/-- Open a setting. -/
def expect (r : Reading) (s : Setting) : Except Halt Reading := do
  let r ← r.settle
  return { r with current := some (s, none) }

def raise (r : Reading) (f : Flag) : Except Halt Reading := do
  let r ← r.settle
  match f with
  | .help => throw .help
  | .version => throw .version
  | _ =>
    if r.flags.contains f then throw (.misuse (.repeated (.flag f)))
    return { r with flags := f :: r.flags }

def unexpected (argument : List Char) : Except Halt Reading :=
  .error (.misuse (.unexpected (String.ofList argument)))

/-- An option by its name, perhaps with a value. -/
def readName (r : Reading) (option : List Char) : Except Halt Reading :=
  let (name, value) := match Text.cut? '=' option with
    | some (name, value) => (name, some value)
    | none => (option, none)
  match Parameter.ofName? (String.ofList name), value with
  | none, _ => unexpected ('-' :: '-' :: name)
  | some (.setting s), some value => r.give s value
  | some (.setting s), none => r.expect s
  | some (.flag f), some value =>
    .error (.misuse (.unneededValue (String.ofList value) (.flag f)))
  | some (.flag f), none => r.raise f

/-- Options by their letters. What follows the letter of a setting is its value. -/
def readLetters (r : Reading) : List Char → Except Halt Reading
  | [] => .ok r
  | c :: rest =>
    match Parameter.ofLetter? c with
    | none => unexpected ['-', c]
    | some (.flag f) => do
      let r ← r.raise f
      r.readLetters rest
    | some (.setting s) =>
      match rest with
      | [] => r.expect s
      | '=' :: value => r.give s value
      | value => r.give s value

def readArgument (r : Reading) (argument : List Char) : Except Halt Reading :=
  match argument with
  | '-' :: '-' :: option => r.readName option
  | '-' :: c :: rest => r.readLetters (c :: rest)
  | _ =>
    match r.current with
    | some (s, none) => .ok { r with current := some (s, some (String.ofList argument)) }
    | _ => unexpected argument

/-- Read the arguments that are left. Nothing may follow two dashes. -/
def readAll (r : Reading) : List String → Except Halt Reading
  | [] => r.settle
  | "--" :: rest =>
    match rest with
    | [] => r.settle
    | argument :: _ => unexpected argument.toList
  | argument :: rest => do
    let r ← r.readArgument argument.toList
    r.readAll rest

/-- A setting that no argument gave may have a value elsewhere. -/
def orElse (r : Reading) (s : Setting) (value : Option String) : Except Halt Reading :=
  match value with
  | some value => if (r.value? s).isSome then .ok r else r.accept s value
  | none => .ok r

end Reading

/-- The values that the environment has for settings. -/
abbrev Environment := Setting → Option String

/-- What the program is asked to do. -/
structure Choices where
  config : String
  listen : Option String
  logLevel : String
  jsonLogs : Bool
  exampleConfig : Bool
  validate : Bool
deriving DecidableEq, Repr

namespace Choices

/-- Arguments come first, then the environment, then the defaults. -/
def parse (env : Environment) (args : List String) : Except Halt Choices := do
  let r ← Reading.start.readAll args
  let r ← [Setting.config, .listen, .logLevel].foldlM (fun r s => r.orElse s (env s)) r
  let value (s : Setting) : Option String := (r.value? s).or s.default?
  return {
    config := (value .config).getD ""
    listen := value .listen
    logLevel := (value .logLevel).getD ""
    jsonLogs := r.flags.contains .jsonLogs
    exampleConfig := r.flags.contains .exampleConfig
    validate := r.flags.contains .validate }

end Choices

end CommandLine
end ApiMapping
