import VulkanWire.Emitter.Basic

/-!
# Sizes of extension structs

The routine that tells the size of a struct in an extension chain from its
structure type: one case for every struct that extends another and has a
structure type of its own.
-/

namespace VulkanWire.ExtensionStructs

/-- The case of a struct: its structure type and its name. -/
def case? (d : StructDef) : Option (String × String) :=
  if d.aliasOf.isSome ∨ d.extendedStructs = [] then none
  else d.structureType.map fun value => (value, d.name)

def renderCase (c : String × String) : String :=
  lines [
    s!"        case {c.1}: \x7b",
    s!"            return sizeof({c.2});",
    "        \x7d"]

/-- The declarations and the routines up to the cases. -/
def opening : Emission where
  header := lines [
    "uint32_t goldfish_vk_struct_type(const void* structExtension);",
    "",
    "size_t goldfish_vk_extension_struct_size(VkStructureType rootType, const void* structExtension);",
    ""]
  implementation := lines [
    "uint32_t goldfish_vk_struct_type(const void* structExtension) \x7b",
    "    const uint32_t asStructType = *(reinterpret_cast<const uint32_t*>(structExtension));",
    "    return asStructType;",
    "\x7d",
    "",
    "size_t goldfish_vk_extension_struct_size(VkStructureType rootType, const void* structExtension) \x7b",
    "    (void)rootType;",
    "    if (!structExtension) \x7b",
    "        return (size_t)0;",
    "    \x7d",
    "    uint32_t structType = (uint32_t)goldfish_vk_struct_type(structExtension);",
    "    switch (structType) \x7b"]

def closing : Emission := .inImplementation (lines [
  "        default: \x7b",
  "            return (size_t)0;",
  "        \x7d",
  "    \x7d",
  "\x7d",
  ""])

def emit : Callback → Emission
  | .start => opening
  | .element (.struct d) =>
    match case? d with
    | some c => .inImplementation (renderCase c)
    | none => .silent
  | .finish => closing
  | _ => .silent

end VulkanWire.ExtensionStructs
