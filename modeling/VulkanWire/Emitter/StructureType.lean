import VulkanWire.Emitter.Basic

/-!
# Structure types of vendor extensions

The structure-type values that one extension introduces, as macros over a
helper that places an offset in the extension's value block.
-/

namespace VulkanWire

/-- The emitter for the values of one extension, spelled through one macro. -/
structure StructureType where
  extension : String
  helper : String
deriving DecidableEq, Repr

namespace StructureType

/-- The enum group whose values are structure types. -/
def groupName : String := "VkStructureType"

/-- The values of a group that belong to the extension: each name with its offset. -/
def values (s : StructureType) (d : GroupDef) : List (String × UInt32) :=
  d.values.filterMap fun v =>
    if v.extension = some s.extension then v.offset.map fun o => (v.name, o) else none

def render (s : StructureType) (v : String × UInt32) : String :=
  s!"#define {v.1} {s.helper}({groupName}, {v.2.toNat})\n"

def emit (s : StructureType) : Callback → Emission
  | .element (.group d) =>
    if d.name = groupName then .inHeader (String.join ((s.values d).map s.render)) else .silent
  | _ => .silent

end StructureType

end VulkanWire
