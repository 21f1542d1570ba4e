import VulkanWire.Emitter.Basic

/-!
# The command encoder

The guest's class of commands: one method per command that is not an alias.
A method writes the command's number, then its parameters in order, and waits
for the answer of a command that returns a value. The number comes from the
marshaling header; its value is kept visible in a comment.
-/

namespace VulkanWire

/-- The encoder emitter with the number of the next command. -/
structure Encoder where
  nextOpcode : Nat := opcodeBase
deriving DecidableEq, Repr

namespace Encoder

/-- The class up to its commands. -/
def opening : Emission := .inHeader (lines [
  "class VkEncoder \x7b",
  "   public:",
  "    VkEncoder(gfxstream::guest::IOStream* stream);",
  "    ~VkEncoder();",
  ""])

def closing : Emission := .inHeader (lines [
  "",
  "   private:",
  "    class Impl;",
  "    std::unique_ptr<Impl> mImpl;",
  "\x7d;",
  ""])

def methodParameters (d : CommandDef) : String :=
  ", ".intercalate (d.params.map (·.declaration) ++ ["uint32_t doLock"])

/-- The statements that write the parameter at a position: a handle as eight bytes, a pointer to a
struct by the struct's own routine, any other pointer by the value behind it, and a value as it
is. -/
def writeParameter (r : Registry) (position : Nat) (p : Member) : String :=
  if r.isHandle p.typeName && !p.isPointer then lines [
    s!"    uint64_t cgen_var_{position};",
    s!"    stream->handleMapping()->mapHandles_{p.typeName}_u64(&{p.name}, &cgen_var_{position}, 1);",
    s!"    stream->write((uint64_t*)&cgen_var_{position}, 1 * 8);"]
  else if r.isStruct p.typeName && p.isPointer then lines [
    s!"    if ({p.name}) \x7b",
    s!"        marshal_{p.typeName}(stream, VK_STRUCTURE_TYPE_MAX_ENUM, ({p.typeName}*)({p.name}));",
    "    \x7d"]
  else if p.isPointer then s!"    stream->write(({p.typeName}*){p.name}, sizeof({p.typeName}));\n"
  else s!"    stream->write(({p.typeName}*)&{p.name}, sizeof({p.typeName}));\n"

/-- The statements that read the answer of a command. -/
def readAnswer (d : CommandDef) : String :=
  if d.returnsValue then lines [
    s!"    {d.returnType} {d.name}_return = ({d.returnType})0;",
    s!"    stream->read(&{d.name}_return, sizeof({d.returnType}));",
    "    stream->flush();",
    s!"    return {d.name}_return;"]
  else "    stream->flush();\n"

def methodBody (r : Registry) (opcode : Nat) (d : CommandDef) : String :=
  lines [
    "    (void)doLock;",
    "    auto stream = mImpl->stream();",
    s!"    uint32_t opcode_{d.name} = OP_{d.name};",
    s!"    stream->write(&opcode_{d.name}, sizeof(uint32_t));",
    s!"    // opcode {opcode}"] ++
  String.join (d.params.mapIdx (writeParameter r)) ++ readAnswer d

def method (r : Registry) (opcode : Nat) (d : CommandDef) : Emission where
  header := s!"    {d.returnType} {d.name}({methodParameters d});\n"
  implementation :=
    s!"{d.returnType} VkEncoder::{d.name}({methodParameters d}) \x7b\n{methodBody r opcode d}\x7d\n\n"

/-- The text for a step and the emitter after it. -/
def respond (r : Registry) (c : Callback) (e : Encoder) : Emission × Encoder :=
  match c with
  | .start => (opening, e)
  | .element (.command d) =>
    if d.aliasOf.isSome then (.silent, e)
    else (method r e.nextOpcode d, ⟨e.nextOpcode + 1⟩)
  | .finish => (closing, e)
  | _ => (.silent, e)

end Encoder

end VulkanWire
