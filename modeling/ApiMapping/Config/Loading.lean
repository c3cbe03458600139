import ApiMapping.Config.Reading
import ApiMapping.Config.Validation
import ApiMapping.Json.Reader
import ApiMapping.Yaml.Reader

/-!
# From a text to a configuration

A configuration is written as JSON or as YAML. What goes wrong with it is either the
text or what the text says.
-/

namespace ApiMapping

inductive TextFormat where
  | json
  | yaml
deriving DecidableEq, Repr

inductive LoadError where
  | text (format : TextFormat) (e : Document.ReadError)
  | config (e : ConfigError)
deriving Repr

namespace TextFormat

def name : TextFormat → String
  | .json => "JSON"
  | .yaml => "YAML"

/-- Read a whole text of this format. -/
def decode (format : TextFormat) (read : Document.Node → Except Document.ReadError α)
    (s : String) : Except Document.ReadError α :=
  match format with
  | .json => Json.decode read s
  | .yaml => Yaml.decode read s

end TextFormat

namespace LoadError

def message : LoadError → String
  | .text format e => s!"{format.name} parse error: {e.message}"
  | .config e => s!"Config error: {e.message}"

end LoadError

namespace Configuration

def ofText (format : TextFormat) (s : String) : Except LoadError Configuration :=
  (format.decode ofDocument s).mapError (.text format)

end Configuration
end ApiMapping
