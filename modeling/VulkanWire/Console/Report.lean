import VulkanWire.Console.Style
import VulkanWire.Generator.Report
import VulkanWire.Tool.Generate

/-!
# Reports on the console

How the outcome of a generation and of a comparison are shown: one line for
each thing of note, in the order of the report, and a summary.
-/

namespace VulkanWire

def Delivery.line (colours : Bool) : Delivery → String
  | .written kind path bytes =>
    let mark := Style.green.paint colours "✓"
    s!"{mark} Written {kind.spelling} ({bytes} bytes) to {path.text}"
  | .shown kind path content =>
    let mark := Style.yellow.paint colours "[dry-run]"
    s!"{mark} Would write {kind.spelling} ({content.utf8ByteSize} bytes) to {path.text}"

def failureMark (colours : Bool) : String := Style.red.paint colours "✗"

def ModuleOutcome.consoleLines (colours : Bool) : ModuleOutcome → List String
  | .delivered _ results => results.map fun r => "  " ++ r.line colours
  | .suppressed module => ["  " ++ Style.dimmed.paint colours s!"- Suppressed {module}"]
  | .failed module fault landed =>
    [s!"  {failureMark colours} {Style.bold.paint colours module}: {fault.message}"] ++
      landed.map (fun path => s!"    already written: {path.text}") ++
      [s!"    {GenerationReport.suppressionHint module}"]
  | .alreadyFinalized _ => []

def FragmentOutcome.consoleLine (colours : Bool) : FragmentOutcome → String
  | .delivered result => "  " ++ result.line colours
  | .failed fault => s!"  {failureMark colours} build fragment: {fault.message}"

namespace GenerationReport

/-- The number of modules and build fragments that failed. -/
def failureCount (r : GenerationReport) : Nat := r.failed.length + r.fragmentFaults.length

/-- The last line of a report. -/
def summary (r : GenerationReport) : String :=
  s!"{r.written.length} module(s) generated, {r.suppressed.length} suppressed, {r.failureCount} failed"

def consoleText (colours : Bool) (r : GenerationReport) : String :=
  let style := if r.failureCount = 0 then Style.green else Style.red
  "\n".intercalate (r.outcomes.flatMap (·.consoleLines colours) ++
    r.fragmentOutcomes.map (·.consoleLine colours) ++ [style.paint colours r.summary])

end GenerationReport

def Comparison.consoleText (colours : Bool) (c : Comparison) : String :=
  if c.isUpToDate then
    let mark := Style.green.paint colours "✓"
    s!"{mark} {c.checked} artifact(s) are up-to-date"
  else
    let mark := failureMark colours
    "\n".intercalate (c.stale.map (fun path => s!"  {mark} out of date: {path.text}") ++
      c.missing.map (fun path => s!"  {mark} missing: {path.text}") ++
      [s!"{mark} {c.differences} of {c.checked} artifact(s) are out of date",
        "  Run 'vk-cereal generate' to update"])

end VulkanWire
