import VulkanWire.Emitter.Basic

/-!
# The command decoder

The host's loop over received commands: one case per command that is not an
alias. A case reads the parameters in order, calls the driver, and answers a
command that returns a value.
-/

namespace VulkanWire

namespace Decoder

/-- The class and the decoding routine up to its cases. -/
def opening : Emission where
  header := lines [
    "class VkDecoder \x7b",
    "   public:",
    "    VkDecoder();",
    "    ~VkDecoder();",
    "    size_t decode(void* buf, size_t bufsize, IOStream* stream, const VkDecoderContext&);",
    "",
    "   private:",
    "    class Impl;",
    "    std::unique_ptr<Impl> mImpl;",
    "\x7d;",
    ""]
  implementation := lines [
    "size_t VkDecoder::Impl::decode(void* buf, size_t len, IOStream* ioStream, const VkDecoderContext& context) \x7b",
    "    if (len < 8) return 0;",
    "    unsigned char* ptr = (unsigned char*)buf;",
    "    const unsigned char* const end = (const unsigned char*)buf + len;",
    "    while (end - ptr >= 8) \x7b",
    "        uint32_t opcode = *(uint32_t*)ptr;",
    "        uint32_t packetLen = *(uint32_t*)(ptr + 4);",
    "        if (end - ptr < packetLen) return ptr - (unsigned char*)buf;",
    "        stream()->setStream(ioStream);",
    "        VulkanStream* vkStream = stream();",
    "        VulkanMemReadingStream* vkReadStream = readStream();",
    "        vkReadStream->setBuf((uint8_t*)(ptr + 8));",
    "        uint8_t* readStreamPtr = vkReadStream->getBuf();",
    "        uint8_t** readStreamPtrPtr = &readStreamPtr;",
    "        switch (opcode) \x7b"]

def closing : Emission := .inImplementation (lines [
  "            default: \x7b",
  "                m_pool.freeAll();",
  "                return ptr - (unsigned char*)buf;",
  "            \x7d",
  "        \x7d",
  "        ptr += packetLen;",
  "    \x7d",
  "    m_pool.freeAll();",
  "    return ptr - (unsigned char*)buf;",
  "\x7d",
  ""])

/-- The statements that read the parameter at a position: a handle from eight bytes, a pointer to a
struct by the struct's own routine, any other pointer from the bytes of one value, and a value from
its bytes. -/
def readParameter (r : Registry) (position : Nat) (p : Member) : String :=
  if r.isHandle p.typeName && !p.isPointer then lines [
    s!"                {p.typeName} {p.name};",
    s!"                uint64_t cgen_var_{position};",
    s!"                memcpy((uint64_t*)&cgen_var_{position}, *readStreamPtrPtr, 1 * 8);",
    "                *readStreamPtrPtr += 1 * 8;",
    s!"                *({p.typeName}*)&{p.name} = ({p.typeName})unbox_{p.typeName}(({p.typeName})(*&cgen_var_{position}));"]
  else if r.isStruct p.typeName && p.isPointer then lines [
    s!"                {p.typeName}* {p.name};",
    s!"                vkReadStream->alloc((void**)&{p.name}, sizeof({p.typeName}));",
    s!"                reservedunmarshal_{p.typeName}(vkReadStream, VK_STRUCTURE_TYPE_MAX_ENUM, ({p.typeName}*)({p.name}), readStreamPtrPtr);"]
  else if p.isPointer then lines [
    s!"                {p.typeName}* {p.name};",
    s!"                vkReadStream->alloc((void**)&{p.name}, sizeof({p.typeName}));",
    s!"                memcpy((void*){p.name}, *readStreamPtrPtr, sizeof({p.typeName}));",
    s!"                *readStreamPtrPtr += sizeof({p.typeName});"]
  else lines [
    s!"                {p.typeName} {p.name};",
    s!"                memcpy((void*)&{p.name}, *readStreamPtrPtr, sizeof({p.typeName}));",
    s!"                *readStreamPtrPtr += sizeof({p.typeName});"]

/-- The statements that call the driver and answer a command. -/
def callDriver (d : CommandDef) : String :=
  if d.returnsValue then lines [
    s!"                {d.returnType} {d.name}_return = ({d.returnType})0;",
    s!"                {d.name}_return = m_vk->{d.name}({d.argumentList});",
    s!"                vkStream->write(&{d.name}_return, sizeof({d.returnType}));"]
  else s!"                m_vk->{d.name}({d.argumentList});\n"

def case (r : Registry) (d : CommandDef) : String :=
  s!"            case OP_{d.name}: \x7b\n" ++
    String.join (d.params.mapIdx (readParameter r)) ++ callDriver d ++
    lines [
      "                vkStream->commitWrite();",
      "                break;",
      "            \x7d"]

def emit (r : Registry) : Callback → Emission
  | .start => opening
  | .element (.command d) => if d.aliasOf.isSome then .silent else .inImplementation (case r d)
  | .finish => closing
  | _ => .silent

end Decoder

end VulkanWire
