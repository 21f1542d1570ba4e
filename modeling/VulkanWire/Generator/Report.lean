import VulkanWire.Output.Module

/-!
# Reports of a generation

A finished generation reports how every module ended, in declaration order,
and how the build fragments ended, the guest's first. Everything else a reader
may want to know is read off these.

## Main definitions

* `GenerationReport` — the outcome of a generation.
* `GenerationReport.deliveries` — every artifact of a complete module and every
  build fragment that was delivered.
* `GenerationReport.isSuccess` — nothing failed.
-/

namespace VulkanWire

/-- How a build fragment's delivery ended. -/
inductive FragmentOutcome where
  | delivered (result : Delivery)
  | failed (fault : DeliveryFault)
deriving DecidableEq, Repr

/-- The outcome of a generation. -/
structure GenerationReport where
  /-- One outcome for each module, in declaration order. -/
  outcomes : List ModuleOutcome
  fragments : BuildFragments
  /-- One outcome for each build fragment. -/
  fragmentOutcomes : List FragmentOutcome
  /-- The only module to deliver, if not all. -/
  suppressExcept : Option String
deriving DecidableEq, Repr

namespace GenerationReport

/-- The modules whose artifacts were all delivered. -/
def written (r : GenerationReport) : List String :=
  r.outcomes.filterMap fun
    | .delivered module _ => some module
    | _ => none

def suppressed (r : GenerationReport) : List String :=
  r.outcomes.filterMap fun
    | .suppressed module => some module
    | _ => none

/-- The modules with an artifact that was not delivered. -/
def failed (r : GenerationReport) : List (String × DeliveryFault) :=
  r.outcomes.filterMap fun
    | .failed module fault _ => some (module, fault)
    | _ => none

def fragmentFaults (r : GenerationReport) : List DeliveryFault :=
  r.fragmentOutcomes.filterMap fun
    | .failed fault => some fault
    | .delivered _ => none

def fragmentDeliveries (r : GenerationReport) : List Delivery :=
  r.fragmentOutcomes.filterMap fun
    | .delivered result => some result
    | .failed _ => none

/-- The artifacts of the modules that were delivered as a whole. -/
def moduleDeliveries (r : GenerationReport) : List Delivery :=
  r.outcomes.flatMap fun
    | .delivered _ results => results
    | _ => []

/-- The artifacts of complete modules and the build fragments that were delivered. -/
def deliveries (r : GenerationReport) : List Delivery :=
  r.moduleDeliveries ++ r.fragmentDeliveries

def isSuccess (r : GenerationReport) : Bool := r.failed.isEmpty && r.fragmentFaults.isEmpty

/-- The advice given for a module that failed. -/
def suppressionHint (module : String) : String :=
  s!"re-run with ANDROID_EMU_VK_CEREAL_SUPPRESS={module} to regenerate only that module"

end GenerationReport

end VulkanWire
