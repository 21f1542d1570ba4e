import VulkanWire.Generator.Report
import VulkanWire.Json.Compose

/-!
# Reports as JSON documents

The outcome of a generation as a document that other tools can look at. What
was only shown is told apart from what was written, and its content is left
out unless it is asked for.
-/

namespace VulkanWire

open Json (text int record ofOption ofTexts)

namespace DeliveryFault

/-- The code of what a failed delivery was doing. -/
def code (f : DeliveryFault) : String :=
  match f.step with
  | .createDirectory => "CreateDir"
  | .writeFile => "WriteFile"

def encode (f : DeliveryFault) : Json :=
  record [("error", text f.code), ("message", text f.message), ("path", f.path.encode)]

end DeliveryFault

/-- The document of a delivery, with its content where that is asked for and was only shown. -/
def Delivery.encode (withContent : Bool) (d : Delivery) : Json :=
  let type := if d.content?.isSome then "dry_run" else "written"
  record ([
    ("type", text type),
    ("kind", text d.kind.spelling),
    ("path", d.path.encode),
    ("bytes", int d.bytes)] ++
    match d.content? with
    | some content => if withContent then [("content", text content)] else []
    | none => [])

def ModuleOutcome.encode (withContent : Bool) (o : ModuleOutcome) : Json :=
  record ([("module", text o.module), ("is_failure", .bool o.isFailure)] ++
    match o with
    | .delivered _ results => [
        ("outcome", text "written"),
        ("results", .array (results.map (Delivery.encode withContent)))]
    | .suppressed _ => [("outcome", text "suppressed")]
    | .alreadyFinalized _ => [("outcome", text "already_finalized")]
    | .failed _ fault landed => [
        ("outcome", text "failed"),
        ("error", fault.encode),
        ("landed", .array (landed.map Path.encode))])

def BuildEntry.encode (e : BuildEntry) : Json :=
  record [("role", text e.role.spelling), ("module", text e.module), ("path", e.path.encode)]

def BuildFragments.encode (f : BuildFragments) : Json :=
  record [
    ("guest", .array (f.guest.map BuildEntry.encode)),
    ("host", .array (f.host.map BuildEntry.encode)),
    ("is_empty", .bool f.isEmpty)]

def FragmentOutcome.encode : FragmentOutcome → Json
  | .delivered result => result.encode true
  | .failed fault => fault.encode

def GenerationReport.encode (withContent : Bool) (r : GenerationReport) : Json :=
  record [
    ("outcomes", .array (r.outcomes.map (ModuleOutcome.encode withContent))),
    ("fragments", r.fragments.encode),
    ("fragment_outcomes", .array (r.fragmentOutcomes.map FragmentOutcome.encode)),
    ("suppress_except", ofOption text r.suppressExcept),
    ("written", ofTexts r.written),
    ("suppressed", ofTexts r.suppressed),
    ("failed", .array (r.failed.map fun (name, fault) => ofTexts [name, fault.message])),
    ("fragment_failures", ofTexts (r.fragmentFaults.map (·.message))),
    ("write_results", .array (r.deliveries.map fun d => d.path.encode)),
    ("is_success", .bool r.isSuccess)]

end VulkanWire
