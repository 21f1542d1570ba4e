import VulkanWire.Emitter.Basic

/-!
# Deep copies of structs

For every struct a routine that copies it into storage owned by an allocator.
The struct is assigned as a whole first; what its members point to is then
copied member by member.
-/

namespace VulkanWire

/-- What copying a member takes beyond the assignment of the struct. -/
inductive CopyStep where
  | extensionChain
  | nestedValue (type field : String)
  | text (field : String)
  | nestedArray (type field count : String)
  | array (type field count : String)
deriving DecidableEq, Repr

namespace CopyStep

/-- The expression that counts what a pointer member leads to. -/
def countOf (m : Member) : String :=
  match m.len with
  | some len => s!"from->{len}"
  | none => "1"

/-- What copying a member takes, if the assignment of the struct is not enough. -/
def ofMember? (r : Registry) (m : Member) : Option CopyStep :=
  if m.name = "pNext" then some .extensionChain
  else if ¬ m.isPointer then
    if r.isStruct m.typeName then some (.nestedValue m.typeName m.name) else none
  else if m.typeName = "char" then some (.text m.name)
  else if m.typeName = "void" then none
  else if r.isStruct m.typeName then some (.nestedArray m.typeName m.name (countOf m))
  else some (.array m.typeName m.name (countOf m))

def render : CopyStep → String
  | extensionChain => lines [
      "    const void* from_pNext = from;",
      "    size_t pNext_size = 0u;",
      "    while (!pNext_size && from_pNext) \x7b",
      "        from_pNext = static_cast<const vk_struct_common*>(from_pNext)->pNext;",
      "        pNext_size = goldfish_vk_extension_struct_size(rootType, from_pNext);",
      "    \x7d",
      "    to->pNext = nullptr;",
      "    if (pNext_size) \x7b",
      "        to->pNext = (void*)alloc->alloc(pNext_size);",
      "        deepcopy_extension_struct(alloc, rootType, from_pNext, (void*)(to->pNext));",
      "    \x7d"]
  | nestedValue type field =>
    s!"    deepcopy_{type}(alloc, rootType, &from->{field}, ({type}*)(&to->{field}));\n"
  | text field => lines [
      s!"    to->{field} = nullptr;",
      s!"    if (from->{field}) \x7b",
      s!"        to->{field} = alloc->strDup(from->{field});",
      "    \x7d"]
  | nestedArray type field count => lines [
      "    if (from) \x7b",
      s!"        to->{field} = nullptr;",
      s!"        if (from->{field}) \x7b",
      s!"            to->{field} = ({type}*)alloc->alloc({count} * sizeof(const {type}));",
      s!"            for (uint32_t i = 0; i < (uint32_t){count}; ++i) \x7b",
      s!"                deepcopy_{type}(alloc, rootType, from->{field} + i, ({type}*)(to->{field} + i));",
      "            \x7d",
      "        \x7d",
      "    \x7d"]
  | array type field count => lines [
      s!"    to->{field} = nullptr;",
      s!"    if (from->{field}) \x7b",
      s!"        to->{field} = ({type}*)alloc->dupArray(from->{field}, {count} * sizeof(const {type}));",
      "    \x7d"]

end CopyStep

namespace DeepCopy

def signature (name : String) : String :=
  s!"void deepcopy_{name}(\n    Allocator* alloc,\n    VkStructureType rootType,\n    const {name}* from,\n    {name}* to)"

/-- The steps of a struct's routine after the assignment. -/
def steps (r : Registry) (d : StructDef) : List CopyStep :=
  d.members.filterMap (CopyStep.ofMember? r)

def body (r : Registry) (d : StructDef) : String :=
  lines ["    (void)alloc;", "    (void)rootType;", "    *to = *from;"] ++
    String.join ((steps r d).map (·.render))

def ofStruct (r : Registry) (d : StructDef) : Emission :=
  match d.aliasOf with
  | some target => .inHeader s!"#define deepcopy_{d.name} deepcopy_{target}\n\n"
  | none => {
      header := s!"{signature d.name};\n\n"
      implementation := s!"{signature d.name} \x7b\n{body r d}\x7d\n\n" }

def emit (r : Registry) : Callback → Emission
  | .element (.struct d) => ofStruct r d
  | _ => .silent

end DeepCopy

end VulkanWire
