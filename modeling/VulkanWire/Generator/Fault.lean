import VulkanWire.Schema.Validity

/-!
# Faults of a generation

A generation fails as a whole when it is put together wrongly, when its schema
is invalid or when its events come in an order that makes no sense. A file that
cannot be delivered is no such fault; it is part of the report.
-/

namespace VulkanWire

/-- A generator that cannot be put together. -/
inductive SetupFault where
  /-- An emitter is bound to a module that is not declared. -/
  | unknownModule (emitter module : String) (known : List String)
  /-- The only module to keep is not declared. -/
  | unknownSuppressedModule (module : String) (known : List String)
  | duplicateModule (name : String)
deriving DecidableEq, Repr

namespace SetupFault

def message : SetupFault → String
  | unknownModule emitter module known =>
    let names := ", ".intercalate known
    s!"Wrapper '{emitter}' is bound to unknown module '{module}'. Known modules: {names}"
  | unknownSuppressedModule module known =>
    let names := ", ".intercalate known
    s!"Suppression switch keeps unknown module '{module}'. Known modules: {names}"
  | duplicateModule name => s!"Module '{name}' is registered twice"

end SetupFault

/-- Feature events that do not pair up. -/
inductive GuardFault where
  | nestedFeature (active next : String)
  | unmatchedEnd
  | unclosedFeature (active : String)
deriving DecidableEq, Repr

namespace GuardFault

def message : GuardFault → String
  | nestedFeature active next => s!"Feature '{next}' begins while '{active}' is still active"
  | unmatchedEnd => "End of feature without a matching begin"
  | unclosedFeature active => s!"Traversal ended while feature '{active}' is still active"

end GuardFault

/-- Events before the file begins or after it ends. -/
inductive LifecycleFault where
  | notStarted (event : String)
  | alreadyStarted
  /-- An event comes after the file has ended. -/
  | spent (event : String)
deriving DecidableEq, Repr

namespace LifecycleFault

def message : LifecycleFault → String
  | notStarted event => s!"Event '{event}' received before begin-file"
  | alreadyStarted => "begin-file received twice"
  | spent event => s!"Event '{event}' received after end-file; the generator is spent"

end LifecycleFault

/-- Why a generation failed as a whole. -/
inductive GenerationFault where
  | setup (fault : SetupFault)
  | guard (fault : GuardFault)
  | lifecycle (fault : LifecycleFault)
  | schema (fault : SchemaError)
deriving DecidableEq, Repr

namespace GenerationFault

def message : GenerationFault → String
  | setup fault => s!"Configuration error: {fault.message}"
  | guard fault => s!"Guard imbalance: {fault.message}"
  | lifecycle fault => s!"Lifecycle error: {fault.message}"
  | schema fault => s!"Schema error: {fault.message}"

end GenerationFault

end VulkanWire
