import VulkanWire.Emitter.Basic

/-!
# Marshaling of structs and numbering of commands

For every struct a pair of routines that write it to a stream and read it back,
and for every command a number. A struct is a list of stream operations, one
per member; the two routines render the same list in opposite directions. The
host side also gets a routine that names the number of a command, with the
cases of each feature inside that feature's guard.

## Main definitions

* `StreamOp` — how one member travels, and `StreamOp.ofMember` decides it.
* `StreamOp.render` — an operation in one direction.
* `Marshaling` — the emitter with the commands numbered so far.
-/

namespace VulkanWire

/-- How a member holds what it refers to. -/
inductive Shape where
  /-- The value itself. -/
  | embedded
  /-- A pointer to one value. -/
  | pointee
  /-- A pointer to as many values as an expression says. -/
  | counted (len : String)
deriving DecidableEq, Repr

namespace Member

/-- How a member holds what it refers to; a length says something only of pointers. -/
def shape (m : Member) : Shape :=
  if m.isPointer then
    match m.len with
    | some len => .counted len
    | none => .pointee
  else .embedded

end Member

/-- The direction of a stream routine. -/
inductive Direction where
  | marshal
  | unmarshal
deriving DecidableEq, Repr

namespace Direction

/-- How the routine's name starts. -/
def verb : Direction → String
  | marshal => "marshal"
  | unmarshal => "unmarshal"

/-- The name of the struct parameter. -/
def subject : Direction → String
  | marshal => "forMarshaling"
  | unmarshal => "forUnmarshaling"

/-- The stream operation on raw bytes. -/
def transfer : Direction → String
  | marshal => "write"
  | unmarshal => "read"

/-- The qualifier of the struct parameter. -/
def qualifier : Direction → String
  | marshal => "const "
  | unmarshal => ""

/-- The directions in the order of their routines. -/
def both : List Direction := [marshal, unmarshal]

end Direction

/-- How one member of a struct travels through a stream. -/
inductive StreamOp where
  | extensionChain
  /-- A handle, mapped to eight bytes held in a numbered slot. -/
  | handle (type field : String) (slot : Nat)
  /-- Structs, by their own routine. -/
  | nested (type field : String) (shape : Shape)
  | text (field : String)
  | bytes (type field : String) (shape : Shape)
deriving DecidableEq, Repr

namespace StreamOp

/-- How the member with a position travels, given the definitions known. -/
def ofMember (r : Registry) (slot : Nat) (m : Member) : StreamOp :=
  if m.name = "pNext" then .extensionChain
  else if r.isHandle m.typeName && !m.isPointer then .handle m.typeName m.name slot
  else if r.isStruct m.typeName then .nested m.typeName m.name m.shape
  else if m.isPointer && m.typeName = "char" then .text m.name
  else .bytes m.typeName m.name m.shape

/-- The operations of members from a position on. -/
def ofMembers (r : Registry) (slot : Nat) : List Member → List StreamOp
  | [] => []
  | m :: rest => ofMember r slot m :: ofMembers r (slot + 1) rest

/-- The statement of an operation in one direction. -/
def render (d : Direction) : StreamOp → String
  | extensionChain =>
    s!"    {d.verb}_extension_struct(vkStream, rootType, {d.subject}->pNext);\n"
  | handle type field slot =>
    match d with
    | .marshal => lines [
        s!"    uint64_t cgen_var_{slot};",
        s!"    vkStream->handleMapping()->mapHandles_{type}_u64(&{d.subject}->{field}, &cgen_var_{slot}, 1);",
        s!"    vkStream->write((uint64_t*)&cgen_var_{slot}, 1 * 8);"]
    | .unmarshal => lines [
        s!"    uint64_t cgen_var_{slot};",
        s!"    vkStream->read((uint64_t*)&cgen_var_{slot}, 1 * 8);",
        s!"    vkStream->handleMapping()->mapHandles_u64_{type}(&cgen_var_{slot}, ({type}*)&{d.subject}->{field}, 1);"]
  | nested type field (.counted len) => lines [
      s!"    for (uint32_t i = 0; i < (uint32_t){d.subject}->{len}; ++i) \x7b",
      s!"        {d.verb}_{type}(vkStream, rootType, ({type}*)({d.subject}->{field} + i));",
      "    \x7d"]
  | nested type field .pointee =>
    s!"    {d.verb}_{type}(vkStream, rootType, ({type}*)({d.subject}->{field}));\n"
  | nested type field .embedded =>
    s!"    {d.verb}_{type}(vkStream, rootType, ({type}*)(&{d.subject}->{field}));\n"
  | text field =>
    match d with
    | .marshal => s!"    vkStream->putString({d.subject}->{field});\n"
    | .unmarshal => s!"    vkStream->loadStringInPlace((char**)&{d.subject}->{field});\n"
  | bytes type field (.counted len) =>
    s!"    vkStream->{d.transfer}(({type}*){d.subject}->{field}, (({d.subject}->{len})) * sizeof({type}));\n"
  | bytes type field .pointee =>
    s!"    vkStream->{d.transfer}(({type}*){d.subject}->{field}, sizeof({type}));\n"
  | bytes type field .embedded =>
    s!"    vkStream->{d.transfer}(({type}*)&{d.subject}->{field}, sizeof({type}));\n"

end StreamOp

/-- The side of the protocol that marshaling code is for. -/
inductive Side where
  | guest
  | host
deriving DecidableEq, Repr

namespace Side

def streamType : Side → String
  | guest => "VulkanStreamGuest"
  | host => "VulkanStream"

def spelling : Side → String
  | guest => "guest"
  | host => "host"

end Side

/-- A command with its number and the feature that introduced it. -/
structure Opcode where
  command : String
  value : Nat
  feature : Option String
deriving DecidableEq, Repr

/-- The marshaling emitter of one side with the commands numbered so far. -/
structure Marshaling where
  side : Side
  opcodes : List Opcode := []
deriving DecidableEq, Repr

namespace Marshaling

/-! ## Structs -/

def signature (s : Side) (d : Direction) (name : String) : String :=
  s!"void {d.verb}_{name}(\n    {s.streamType}* vkStream,\n    VkStructureType rootType,\n    {d.qualifier}{name}* {d.subject})"

def operations (r : Registry) (d : StructDef) : List StreamOp := StreamOp.ofMembers r 0 d.members

def body (r : Registry) (dir : Direction) (d : StructDef) : String :=
  "    (void)rootType;\n" ++ String.join ((operations r d).map (·.render dir))

/-- The routine of a struct in one direction. -/
def routine (s : Side) (r : Registry) (d : StructDef) (dir : Direction) : Emission where
  header := s!"{signature s dir d.name};\n\n"
  implementation := s!"{signature s dir d.name} \x7b\n{body r dir d}\x7d\n\n"

/-- The routine of a struct that re-exports another. -/
def rename (name target : String) (dir : Direction) : Emission :=
  .inHeader s!"#define {dir.verb}_{name} {dir.verb}_{target}\n\n"

def ofStruct (s : Side) (r : Registry) (d : StructDef) : Emission :=
  match d.aliasOf with
  | some target => .concat (Direction.both.map (rename d.name target))
  | none => .concat (Direction.both.map (routine s r d))

/-! ## Commands -/

def nextOpcode (m : Marshaling) : Nat := opcodeBase + m.opcodes.length

/-- The entry of a command that is introduced now. -/
def opcodeOf (m : Marshaling) (r : Registry) (d : CommandDef) : Opcode :=
  ⟨d.name, m.nextOpcode, r.currentFeature?⟩

def renderOpcode (o : Opcode) : String := s!"#define OP_{o.command} {o.value}\n"

/-- The case of a command in the naming routine. -/
def renderCase (o : Opcode) : String :=
  lines [
    s!"        case OP_{o.command}: \x7b",
    s!"            return \"OP_{o.command}\";",
    "        \x7d"]

/-- The text that closes a feature's guard, if one is open. -/
def closeGuard : Option String → String
  | some _ => "#endif\n"
  | none => ""

/-- The text that opens a feature's guard, if there is a feature. -/
def openGuard : Option String → String
  | some f => s!"#ifdef {f}\n"
  | none => ""

/-- The cases of commands, given the guard that is open before them. -/
def renderCases (guard : Option String) : List Opcode → String
  | [] => closeGuard guard
  | o :: rest =>
    (if o.feature = guard then "" else closeGuard guard ++ openGuard o.feature) ++
      renderCase o ++ renderCases o.feature rest

/-- The routine that names the number of a command. -/
def nameTable (os : List Opcode) : String :=
  lines [
    "const char* api_opcode_to_string(const uint32_t opcode) \x7b",
    "    switch (opcode) \x7b"] ++
  renderCases none os ++
  lines [
    "        default: \x7b",
    "            return \"OP_UNKNOWN_API_CALL\";",
    "        \x7d",
    "    \x7d",
    "\x7d",
    ""]

/-! ## Steps -/

/-- The text for a step and the emitter after it. -/
def respond (r : Registry) (c : Callback) (m : Marshaling) : Emission × Marshaling :=
  match c with
  | .start =>
    match m.side with
    | .guest => (.silent, m)
    | .host =>
      (.inHeader "const char* api_opcode_to_string(const uint32_t opcode);\n\n", m)
  | .element (.struct d) => (ofStruct m.side r d, m)
  | .element (.command d) =>
    if d.aliasOf.isSome then (.silent, m)
    else
      let o := m.opcodeOf r d
      (.inHeader (renderOpcode o), { m with opcodes := m.opcodes ++ [o] })
  | .finish =>
    match m.side with
    | .guest => (.silent, m)
    | .host => (.inImplementation (nameTable m.opcodes), m)
  | _ => (.silent, m)

end Marshaling

end VulkanWire
