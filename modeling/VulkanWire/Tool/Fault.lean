import VulkanWire.Config.Basic
import VulkanWire.Generator.Fault
import VulkanWire.Storage.Basic

/-!
# Faults of the tool

Everything that can end a command of the tool, with its wording and the exit
code that tells a broken run from a run whose result is not as it should be.
-/

namespace VulkanWire

/-- Why there is no configuration. -/
inductive ConfigFault where
  | missing (path : Path)
  | malformed (path : Path)
  | setting (fault : SettingFault)
  | unreadable (path : Path) (cause : FileFault)
deriving DecidableEq, Repr

namespace ConfigFault

def message : ConfigFault → String
  | missing path => s!"Configuration file not found: {path.text}"
  | malformed path => s!"Invalid TOML in {path.text}"
  | setting fault => s!"Invalid configuration value for '{fault.key}': {fault.problem}"
  | unreadable path cause => s!"Failed to read config {path.text}: {cause.message}"

end ConfigFault

/-- Why there is no schema. -/
inductive LoadFault where
  | missing (path : Path)
  | malformed (path : Path)
  | invalid (path : Path) (fault : SchemaError)
  | unreadable (path : Path) (cause : FileFault)
deriving DecidableEq, Repr

namespace LoadFault

def message : LoadFault → String
  | missing path => s!"Schema file not found: {path.text}"
  | malformed path => s!"Invalid schema JSON in {path.text}"
  | invalid path fault => s!"Invalid schema {path.text}: {fault.message}"
  | unreadable path cause => s!"Failed to read schema {path.text}: {cause.message}"

end LoadFault

/-- Why a command of the tool did not succeed. -/
inductive ToolFault where
  | config (fault : ConfigFault)
  | load (fault : LoadFault)
  | generation (fault : GenerationFault)
  /-- Some artifacts were not delivered. -/
  | partialDelivery (count : Nat)
  /-- What stands on disk is not as it should be. -/
  | validation (problem : String)
  | storage (cause : FileFault)
deriving DecidableEq, Repr

namespace ToolFault

def message : ToolFault → String
  | config fault => s!"Failed to load configuration: {fault.message}"
  | load fault => s!"Failed to load schema: {fault.message}"
  | generation fault => s!"Generation failed: {fault.message}"
  | partialDelivery count => s!"{count} artifact(s) could not be written"
  | validation problem => s!"Validation failed: {problem}"
  | storage cause => s!"IO error: {cause.message}"

/-- The exit code for a fault: a run that went through with an unwelcome result is told apart from
one that broke off. -/
def exitCode : ToolFault → UInt8
  | partialDelivery _ | validation _ => 2
  | _ => 1

end ToolFault

end VulkanWire
