import ApiMapping.CommandLine.Run

/-!
# The program

The environment and the configuration file are read here, and the outcome is printed.
Nothing listens on the address of a configuration that is ready to be served.
-/

namespace ApiMapping
namespace CommandLine

def readText (path : String) : IO (Option String) := do
  try return some (← IO.FS.readFile path)
  catch _ => return none

def getEnvironment : IO Environment := do
  let value (s : Setting) : IO (Option String) := do
    match s.environmentName? with
    | some name => IO.getEnv name
    | none => return none
  let config ← value .config
  let listen ← value .listen
  let logLevel ← value .logLevel
  return fun
    | .config => config
    | .listen => listen
    | .logLevel => logLevel

def execute (args : List String) : IO UInt32 := do
  let outcome ← run (← getEnvironment) readText args
  IO.print outcome.output
  IO.eprint outcome.errors
  match outcome with
  | .serve .. =>
    IO.eprintln "Error: Failed to run mapping gateway"
    return 1
  | _ => return outcome.code

end CommandLine
end ApiMapping

def main (args : List String) : IO UInt32 := ApiMapping.CommandLine.execute args
