import VulkanWire.Gfxstream.Bindings
import VulkanWire.Gfxstream.Features
import VulkanWire.Generator.Run
import VulkanWire.Tool.Fault

/-!
# Generating and comparing

The tool generates the modules of the gfxstream build. To compare what stands
on disk with what would be generated, it generates without touching any file
and then reads the file of every artifact.

## Main definitions

* `Config.generator` — the generator that a configuration asks for.
* `generateAll` — generates from a schema.
* `compareAll` — compares what stands on disk.
-/

namespace VulkanWire

/-- The generator that a configuration asks for. -/
def Config.generator (c : Config) (commandLine : String) :
    Except SetupFault (Generator StandardEmitter) :=
  Generator.assemble (c.generatorOptions commandLine) (Gfxstream.gate c.generation.extraFeatures)
    (Gfxstream.modules c.layoutSettings) Gfxstream.bindings

/-- What a comparison of artifacts with files found. -/
structure Comparison where
  /-- The number of artifacts. -/
  checked : Nat := 0
  /-- The files that hold something else. -/
  stale : List Path := []
  /-- The files that are not there. -/
  missing : List Path := []
deriving DecidableEq, Repr, Inhabited

namespace Comparison

def isUpToDate (c : Comparison) : Bool := c.stale.isEmpty && c.missing.isEmpty

/-- The number of files that do not hold what they should. -/
def differences (c : Comparison) : Nat := c.stale.length + c.missing.length

end Comparison

section Running

variable {m : Type → Type} [Monad m] [Storage m]

def generateAll (c : Config) (s : Schema) (commandLine : String) :
    m (Except GenerationFault GenerationReport) := do
  match c.generator commandLine with
  | .error fault => return .error (.setup fault)
  | .ok g => return (← g.run s).1

/-- Compares artifacts that were only shown with the files they belong in, up to the first file
that can be neither read nor called missing. -/
def compareDeliveries : List Delivery → m (Except FileFault Comparison)
  | [] => pure (.ok {})
  | .written .. :: rest => compareDeliveries rest
  | .shown _ path content :: rest => do
    match ← Storage.readText path with
    | .ok actual =>
      return (← compareDeliveries rest).map fun c =>
        { c with
          checked := c.checked + 1
          stale := if actual = content then c.stale else path :: c.stale }
    | .error .missing =>
      return (← compareDeliveries rest).map fun c =>
        { c with checked := c.checked + 1, missing := path :: c.missing }
    | .error cause => return .error cause

/-- The configuration that touches no file. -/
def Config.dry (c : Config) : Config := { c with output := { c.output with dryRun := true } }

/-- Compares what stands on disk with what would be generated. -/
def compareAll (c : Config) (s : Schema) (commandLine : String) :
    m (Except ToolFault Comparison) := do
  match ← generateAll c.dry s commandLine with
  | .error fault => return .error (.generation fault)
  | .ok report =>
    match ← compareDeliveries report.deliveries with
    | .ok c => return .ok c
    | .error cause => return .error (.storage cause)

end Running

end VulkanWire
