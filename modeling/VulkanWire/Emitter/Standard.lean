import VulkanWire.Emitter.Decoder
import VulkanWire.Emitter.DeepCopy
import VulkanWire.Emitter.Dispatch
import VulkanWire.Emitter.Encoder
import VulkanWire.Emitter.ExtensionStructs
import VulkanWire.Emitter.FunctionTable
import VulkanWire.Emitter.Marshaling
import VulkanWire.Emitter.StructureType
import VulkanWire.Emitter.Transform

/-!
# The standard emitters

The closed set of emitters that generated code comes from, as one type.
-/

namespace VulkanWire

/-- The emitters that generated code comes from, each with its state. -/
inductive StandardEmitter where
  | extensionStructs
  | marshaling (state : Marshaling)
  | deepCopy
  | transform (tracker : String)
  | dispatch (state : Dispatch)
  | functionTable (state : FunctionTable)
  | encoder (state : Encoder)
  | decoder
  | structureType (values : StructureType)
deriving DecidableEq, Repr

namespace StandardEmitter

/-- What feature restrictions select by. -/
def kind : StandardEmitter → EmitterKind
  | extensionStructs => .extensionStructs
  | marshaling _ => .marshaling
  | deepCopy => .deepCopy
  | transform _ => .transform
  | dispatch _ => .dispatch
  | functionTable _ => .functionTable
  | encoder _ => .encoder
  | decoder => .decoder
  | structureType _ => .structureType

/-- The name in diagnostics: the kind's, and for marshaling also the side. -/
def label : StandardEmitter → String
  | marshaling s => s!"marshaling({s.side.spelling})"
  | e => e.kind.spelling

/-- The text for a step and the emitter after it. -/
def respond (r : Registry) (c : Callback) : StandardEmitter → Emission × StandardEmitter
  | extensionStructs => (ExtensionStructs.emit c, extensionStructs)
  | marshaling s => (s.respond r c).map id marshaling
  | deepCopy => (DeepCopy.emit r c, deepCopy)
  | transform tracker => (Transform.emit tracker r c, transform tracker)
  | dispatch s => (s.respond c).map id dispatch
  | functionTable s => (s.respond r c).map id functionTable
  | encoder s => (s.respond r c).map id encoder
  | decoder => (Decoder.emit r c, decoder)
  | structureType s => (s.emit c, structureType s)

instance : Emitter StandardEmitter := ⟨kind, label, respond⟩

/-- No step changes what kind of emitter it is. -/
theorem kind_respond (r : Registry) (c : Callback) (e : StandardEmitter) :
    (e.respond r c).2.kind = e.kind := by
  cases e <;> rfl

end StandardEmitter

end VulkanWire
