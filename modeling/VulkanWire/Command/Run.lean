import VulkanWire.Command.Line
import VulkanWire.Console.Report
import VulkanWire.Tool.Banner
import VulkanWire.Tool.Load

/-!
# Running commands

A command prints lines as it goes and may end in a fault, which comes after
all of them. What it prints and what it does to files are kept apart, so that
a command can be run on a disk as well as on real files.

## Main definitions

* `Command.run` — runs a command.
* `runLine` — runs a whole command line to an exit code.
-/

namespace VulkanWire

/-- What a command does: it prints lines, works on files and may end in a fault. -/
abbrev Session (m : Type → Type) := ExceptT ToolFault (StateT (List String) m)

namespace Session

variable {m : Type → Type} [Monad m]

/-- Prints a line. -/
def say (line : String) : Session m Unit := modify (· ++ [line])

/-- Goes on with an answer, or ends in its fault. -/
def require {α φ : Type} (fault : φ → ToolFault) (x : m (Except φ α)) : Session m α := do
  match ← (x : m _) with
  | .ok a => return a
  | .error e => throw (fault e)

end Session

open Session

section Commands

variable {m : Type → Type} [Monad m] [Storage m]

def runGenerate (colours : Bool) (env : EnvOverrides) (schema : Path) (config : Option Path)
    (args : ArgOverrides) : Session m Unit := do
  let c ← require .config (resolveConfig config env args)
  say (Style.cyan.paint colours "Loading schema...")
  let s ← require .load (loadSchema schema)
  let count := Style.green.paint colours (toString s.features.length)
  say s!"  Found {count} feature(s)"
  if let some module := c.generation.suppress then
    let label := Style.yellow.paint colours "Suppression:"
    let name := Style.bold.paint colours module
    say s!"{label} only {name} is regenerated"
  say (Style.cyan.paint colours "Generating modules...")
  let workingDir ← require .storage Storage.workingDir
  let commandLine ← (regenerationCommand workingDir schema : m String)
  let report ← require .generation (generateAll c s commandLine)
  say (report.consoleText colours)
  if !report.isSuccess then throw (.partialDelivery report.failureCount)

def runInit (colours : Bool) (output : Path) (force : Bool) : Session m Unit := do
  if (← (Storage.present output : m Bool)) && !force then
    let label := Style.red.paint colours "Error:"
    say s!"{label} Configuration file already exists: {output.text}"
    say "  Use --force to overwrite"
    throw (.validation "Configuration file already exists")
  require .storage (Storage.writeText output Config.template)
  let mark := Style.green.paint colours "✓"
  say s!"{mark} Created configuration file: {output.text}"

/-- Compares what stands on disk with what would be generated. -/
def runValidate (colours : Bool) (env : EnvOverrides) (schema : Path) (config : Option Path)
    (args : ArgOverrides) : Session m Unit := do
  say (Style.cyan.paint colours "Validating artifacts...")
  let c ← require .config (resolveConfig config env args)
  let s ← require .load (loadSchema schema)
  let workingDir ← require .storage Storage.workingDir
  let commandLine ← (regenerationCommand workingDir schema : m String)
  let found ← require id (compareAll c s commandLine)
  say (found.consoleText colours)
  if !found.isUpToDate then
    throw (.validation s!"{found.differences} artifact(s) are out of date")

def Command.run (colours : Bool) (env : EnvOverrides) : Command → Session m Unit
  | .generate schema config args => runGenerate colours env schema config args
  | .init output force => runInit colours output force
  | .validate schema config args => runValidate colours env schema config args

/-- What a run of the tool leaves to be seen. -/
structure Transcript where
  exitCode : UInt8
  /-- What it printed. -/
  output : String := ""
  /-- What it said about its failure. -/
  complaint : Option String := none
deriving DecidableEq, Repr

def usage : String := lines [
  "Generate the gfxstream Vulkan serialization layers",
  "",
  "Usage: vk-cereal [OPTIONS] <COMMAND>",
  "",
  "Commands:",
  "  generate  Generate modules from a schema",
  "  init      Initialize a configuration file",
  "  validate  Validate that artifacts are up-to-date",
  "  help      Print this message or the help of the given subcommand(s)",
  "",
  "Options:",
  "  -v, --verbose...  Enable verbose output",
  "  -h, --help        Print help",
  "  -V, --version     Print version"]

def complaintOf (colours : Bool) (fault : ToolFault) : String :=
  let label := Style.boldRed.paint colours "Error:"
  s!"{label} {fault.message}"

def runLine (colours : Bool) (env : List (String × String)) (words : List String) :
    m Transcript := do
  match Command.parse words with
  | .error .help => return { exitCode := 0, output := usage }
  | .error .version => return { exitCode := 0, output := "vk-cereal 0.1.0\n" }
  | .error .misuse =>
    return { exitCode := 2, complaint := some ("error: unexpected command line\n\n" ++ usage) }
  | .ok command =>
    let (result, printed) ← (ExceptT.run (command.run colours (.ofPairs env))).run []
    match result with
    | .ok () => return { exitCode := 0, output := lines printed }
    | .error fault =>
      return {
        exitCode := fault.exitCode
        output := lines printed
        complaint := some (complaintOf colours fault) }

end Commands

end VulkanWire
