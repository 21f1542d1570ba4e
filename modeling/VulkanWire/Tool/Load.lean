import VulkanWire.Config.Document
import VulkanWire.Config.Layers
import VulkanWire.Json.Reader
import VulkanWire.Schema.Codec
import VulkanWire.Tool.Fault

/-!
# Loading schemas and configurations

A schema is read from a file that has to be there. A configuration is read from
a file that has to be there only if it was asked for; then the environment and
the command line have their say.

## Main definitions

* `Schema.parse` — the valid schema in a text.
* `loadSchema`, `loadConfig` — the same from files.
* `resolveConfig` — a configuration with all layers.
-/

namespace VulkanWire

/-- The valid schema in the text of a file. -/
def Schema.parse (path : Path) (text : String) : Except LoadFault Schema :=
  match (Json.parse? text).bind (Schema.decode? .arriving) with
  | none => .error (.malformed path)
  | some s =>
    match s.validate with
    | .ok () => .ok s
    | .error fault => .error (.invalid path fault)

/-- The configuration in the text of a file. -/
def Config.parse (path : Path) (text : String) : Except ConfigFault Config :=
  match Config.parse? text with
  | none => .error (.malformed path)
  | some c => .ok c

section Loading

variable {m : Type → Type} [Monad m] [Storage m]

def loadSchema (path : Path) : m (Except LoadFault Schema) := do
  if ← Storage.present path then
    match ← Storage.readText path with
    | .ok text => return Schema.parse path text
    | .error cause => return .error (.unreadable path cause)
  else return .error (.missing path)

/-- The file that a configuration is read from when none is asked for. -/
def defaultConfigPath : Path := "vk-cereal.toml"

/-- The configuration in a file, or the default one if none was asked for and none is there. -/
def loadConfig (asked : Option Path) : m (Except ConfigFault Config) := do
  let path := asked.getD defaultConfigPath
  if ← Storage.present path then
    match ← Storage.readText path with
    | .ok text => return Config.parse path text
    | .error cause => return .error (.unreadable path cause)
  else if asked.isSome then return .error (.missing path)
  else return .ok {}

/-- A configuration with all layers. -/
def resolveConfig (asked : Option Path) (env : EnvOverrides) (args : ArgOverrides) :
    m (Except ConfigFault Config) := do
  match ← loadConfig asked with
  | .error fault => return .error fault
  | .ok c =>
    match c.layered? env args with
    | .ok c => return .ok c
    | .error fault => return .error (.setting fault)

end Loading

end VulkanWire
