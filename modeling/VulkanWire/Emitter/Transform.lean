import VulkanWire.Emitter.Marshaling

/-!
# Guest and host representations of structs

For every struct a pair of routines that turn it into the host's representation
and back. A struct that holds device memory is handed to the resource tracker;
nested structs are transformed member by member. Every struct gets both
routines, even when nothing has to be done.
-/

namespace VulkanWire.Transform

def directions : List String := ["tohost", "fromhost"]

def signature (tracker direction name : String) : String :=
  s!"void transform_{direction}_{name}(\n    {tracker}* resourceTracker,\n    {name}* toTransform)"

/-- Whether a struct holds device memory by value under its usual name. -/
def hasDeviceMemory (d : StructDef) : Bool :=
  d.members.any fun m => m.typeName = "VkDeviceMemory" ∧ m.name = "memory" ∧ ¬ m.isPointer

/-- The address of a field, or nothing if the struct has no such field. -/
def address (d : StructDef) (field : String) : String :=
  if d.members.any fun m => m.name = field then s!"&toTransform->{field}" else "nullptr"

/-- The call that hands device memory to the tracker. -/
def trackMemory (direction : String) (d : StructDef) : String :=
  let memory := address d "memory"
  let offset := address d "offset"
  let size := address d "size"
  s!"    resourceTracker->deviceMemoryTransform_{direction}({memory}, 1, {offset}, 1, {size}, 1, nullptr, 0, nullptr, 0);\n"

/-- A struct-typed member, which its own routine transforms. -/
structure Nested where
  type : String
  field : String
  shape : Shape
deriving DecidableEq, Repr

/-- A member as a nested struct, if its type is one. -/
def Nested.ofMember? (r : Registry) (m : Member) : Option Nested :=
  if r.isStruct m.typeName then some ⟨m.typeName, m.name, m.shape⟩ else none

def Nested.render (direction : String) (n : Nested) : String :=
  match n.shape with
  | .counted len => lines [
      s!"    if (toTransform->{n.field}) \x7b",
      s!"        for (uint32_t i = 0; i < (uint32_t)toTransform->{len}; ++i) \x7b",
      s!"            transform_{direction}_{n.type}(resourceTracker, ({n.type}*)(toTransform->{n.field} + i));",
      "        \x7d",
      "    \x7d"]
  | .pointee => lines [
      s!"    if (toTransform->{n.field}) \x7b",
      s!"        transform_{direction}_{n.type}(resourceTracker, ({n.type}*)(toTransform->{n.field}));",
      "    \x7d"]
  | .embedded =>
    s!"    transform_{direction}_{n.type}(resourceTracker, ({n.type}*)(&toTransform->{n.field}));\n"

def nested (r : Registry) (d : StructDef) : List Nested := d.members.filterMap (Nested.ofMember? r)

def body (r : Registry) (direction : String) (d : StructDef) : String :=
  lines ["    (void)resourceTracker;", "    (void)toTransform;"] ++
    (if hasDeviceMemory d then trackMemory direction d else "") ++
    String.join ((nested r d).map (·.render direction))

/-- The routine of a struct in one direction. -/
def routine (tracker : String) (r : Registry) (d : StructDef) (direction : String) : Emission where
  header := s!"{signature tracker direction d.name};\n\n"
  implementation := s!"{signature tracker direction d.name} \x7b\n{body r direction d}\x7d\n\n"

/-- The routine of a struct that re-exports another. -/
def rename (name target direction : String) : Emission :=
  .inHeader s!"#define transform_{direction}_{name} transform_{direction}_{target}\n\n"

def ofStruct (tracker : String) (r : Registry) (d : StructDef) : Emission :=
  match d.aliasOf with
  | some target => .concat (directions.map (rename d.name target))
  | none => .concat (directions.map (routine tracker r d))

def emit (tracker : String) (r : Registry) : Callback → Emission
  | .start => .inHeader s!"class {tracker};\n\n"
  | .element (.struct d) => ofStruct tracker r d
  | _ => .silent

end VulkanWire.Transform
