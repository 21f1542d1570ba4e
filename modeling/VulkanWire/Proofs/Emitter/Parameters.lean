import VulkanWire.Proofs.Emitter.Numbering
import VulkanWire.Proofs.Output.Gathering

/-!
# Both ends of a call

The encoder and the decoder decide on their own how each parameter of a command
travels. What they know is the registry, and a type may be missing there or be
known by another name; still they must come to the same class, since the
encoder's bytes carry no tags. Here a class is a value, with the statements at
both of its ends, and each emitter is shown to write those of one class and of
no other. The two texts of a command are then rendered from one list of
parameters and one answer.

## Main definitions

* `WireClass` — how a parameter travels.
* `WireParam.written`, `WireParam.read` — the statements at the two ends.
* `sending`, `receiving` — the texts of a command for some parameters and an answer.
* `Fits` — what an encoder and a decoder say of a command fits together.

## Main results

* `writeParameter_iff`, `readParameter_iff` — the statements tell the class.
* `fits_command` — every command, given any registry.
-/

namespace VulkanWire

/-- How a parameter travels. -/
inductive WireClass where
  /-- A handle, mapped to eight bytes. -/
  | handle
  /-- A pointer to a struct, by the struct's own routine. -/
  | structPointer
  /-- A pointer to anything else, by the value behind it. -/
  | pointer
  /-- A value, by its bytes. -/
  | value
deriving DecidableEq, Repr

/-- How a parameter travels, given what is known. -/
def WireClass.of (r : Registry) (p : Member) : WireClass :=
  if p.isPointer then if r.isStruct p.typeName then .structPointer else .pointer
  else if r.isHandle p.typeName then .handle else .value

/-- A parameter as it travels. -/
structure WireParam where
  wireClass : WireClass
  type : String
  name : String
  /-- Its position, which numbers the slot of a handle. -/
  slot : Nat
deriving DecidableEq, Repr

def WireParam.of (r : Registry) (position : Nat) (p : Member) : WireParam :=
  ⟨.of r p, p.typeName, p.name, position⟩

/-- The parameters of a command as they travel. -/
def CommandDef.onWire (r : Registry) (d : CommandDef) : List WireParam :=
  d.params.mapIdx (WireParam.of r)

/-- The type of a command's answer, if there is one. -/
def CommandDef.answerType? (d : CommandDef) : Option String :=
  if d.returnType = "void" then none else some d.returnType

/-! ## Statements at the two ends -/

/-- How many bytes a value of a type takes. -/
def bytesOf (type : String) : String := "sizeof(" ++ type ++ ")"

namespace Sender

/-- Sends bytes from an address. -/
def send (address size : String) : String :=
  "    stream->write(" ++ address ++ ", " ++ size ++ ");\n"

/-- Takes bytes of an answer to an address. -/
def take (address size : String) : String :=
  "    stream->read(" ++ address ++ ", " ++ size ++ ");\n"

/-- The parameters of a method: those of its command, and whether it has to take the lock. -/
def parameters (d : CommandDef) : String :=
  ", ".intercalate (d.params.map (·.declaration) ++ ["uint32_t doLock"])

end Sender

namespace Receiver

/-- Declares a variable. -/
def declare (type name : String) : String := "                " ++ type ++ " " ++ name ++ ";\n"

/-- Has a pointer point to a new value. -/
def allocate (type name : String) : String :=
  "                vkReadStream->alloc((void**)&" ++ name ++ ", " ++ bytesOf type ++ ");\n"

/-- Takes bytes of a call to an address. -/
def take (address size : String) : String :=
  "                memcpy(" ++ address ++ ", *readStreamPtrPtr, " ++ size ++ ");\n" ++
    "                *readStreamPtrPtr += " ++ size ++ ";\n"

/-- Answers with bytes from an address. -/
def send (address size : String) : String :=
  "                vkStream->write(" ++ address ++ ", " ++ size ++ ");\n"

/-- The arguments that a command is performed with. -/
def arguments (d : CommandDef) : String := ", ".intercalate (d.params.map (·.name))

end Receiver

namespace WireParam

/-- The variable for the eight bytes of a handle. -/
def box (w : WireParam) : String := "cgen_var_" ++ toString w.slot

/-- The statements that write a parameter. -/
def written (w : WireParam) : String :=
  match w.wireClass with
  | .handle =>
    "    uint64_t " ++ w.box ++ ";\n" ++
      ("    stream->handleMapping()->mapHandles_" ++ w.type ++ "_u64(&" ++ w.name ++ ", &" ++ w.box ++
        ", 1);\n") ++
      Sender.send ("(uint64_t*)&" ++ w.box) "1 * 8"
  | .structPointer =>
    "    if (" ++ w.name ++ ") \x7b\n" ++
      ("        marshal_" ++ w.type ++ "(stream, VK_STRUCTURE_TYPE_MAX_ENUM, (" ++ w.type ++ "*)(" ++
        w.name ++ "));\n") ++
      "    \x7d\n"
  | .pointer => Sender.send ("(" ++ w.type ++ "*)" ++ w.name) (bytesOf w.type)
  | .value => Sender.send ("(" ++ w.type ++ "*)&" ++ w.name) (bytesOf w.type)

/-- The statements that read a parameter. -/
def read (w : WireParam) : String :=
  match w.wireClass with
  | .handle =>
    Receiver.declare w.type w.name ++ Receiver.declare "uint64_t" w.box ++
      Receiver.take ("(uint64_t*)&" ++ w.box) "1 * 8" ++
      ("                *(" ++ w.type ++ "*)&" ++ w.name ++ " = (" ++ w.type ++ ")unbox_" ++ w.type ++
        "((" ++ w.type ++ ")(*&" ++ w.box ++ "));\n")
  | .structPointer =>
    Receiver.declare (w.type ++ "*") w.name ++ Receiver.allocate w.type w.name ++
      ("                reservedunmarshal_" ++ w.type ++ "(vkReadStream, VK_STRUCTURE_TYPE_MAX_ENUM, (" ++
        w.type ++ "*)(" ++ w.name ++ "), readStreamPtrPtr);\n")
  | .pointer =>
    Receiver.declare (w.type ++ "*") w.name ++ Receiver.allocate w.type w.name ++
      Receiver.take ("(void*)" ++ w.name) (bytesOf w.type)
  | .value => Receiver.declare w.type w.name ++ Receiver.take ("(void*)&" ++ w.name) (bytesOf w.type)

end WireParam

/-- The statements that take the answer of a command. -/
def Sender.await (d : CommandDef) : Option String → String
  | none => "    stream->flush();\n"
  | some type =>
    "    " ++ type ++ " " ++ d.name ++ "_return = (" ++ type ++ ")0;\n" ++
      Sender.take ("&" ++ d.name ++ "_return") (bytesOf type) ++ "    stream->flush();\n" ++
      ("    return " ++ d.name ++ "_return;\n")

/-- The statements that perform a command and send its answer. -/
def Receiver.perform (d : CommandDef) : Option String → String
  | none => "                m_vk->" ++ d.name ++ "(" ++ arguments d ++ ");\n"
  | some type =>
    "                " ++ type ++ " " ++ d.name ++ "_return = (" ++ type ++ ")0;\n" ++
      ("                " ++ d.name ++ "_return = m_vk->" ++ d.name ++ "(" ++ arguments d ++ ");\n") ++
      Receiver.send ("&" ++ d.name ++ "_return") (bytesOf type)

/-- The method that sends a command with some parameters and waits for an answer of some type. The
number stands in a comment only. -/
def sending (opcode : Nat) (d : CommandDef) (ws : List WireParam) (answerType? : Option String) :
    Emission where
  header :=
    "    " ++ d.returnType ++ " " ++ d.name ++ "(" ++ Sender.parameters d ++ ");\n"
  implementation :=
    d.returnType ++ " VkEncoder::" ++ d.name ++ "(" ++ Sender.parameters d ++ ") \x7b\n" ++
      lines ["    (void)doLock;", "    auto stream = mImpl->stream();"] ++
      ("    uint32_t opcode_" ++ d.name ++ " = OP_" ++ d.name ++ ";\n" ++
        Sender.send ("&opcode_" ++ d.name) (bytesOf "uint32_t")) ++
      ("    // opcode " ++ toString opcode ++ "\n") ++
      String.join (ws.map (·.written)) ++ Sender.await d answerType? ++ "\x7d\n\n"

/-- The case that receives a command with some parameters, performs it and sends an answer of some
type. -/
def receiving (d : CommandDef) (ws : List WireParam) (answerType? : Option String) : Emission :=
  .inImplementation (
    "            case OP_" ++ d.name ++ ": \x7b\n" ++
      String.join (ws.map (·.read)) ++ Receiver.perform d answerType? ++
      lines ["                vkStream->commitWrite();", "                break;", "            \x7d"])

/-- What an encoder and a decoder say of a command fits together. -/
structure Fits (r : Registry) (d : CommandDef) (encoded decoded : Emission) : Prop where
  /-- The encoder skips aliases, and nothing else. -/
  unsent : encoded = .silent ↔ d.aliasOf.isSome = true
  /-- The decoder skips aliases, and nothing else. -/
  unreceived : decoded = .silent ↔ d.aliasOf.isSome = true
  /-- Otherwise the same parameters and the same answer go from one to the other. -/
  carried : d.aliasOf = none → ∃ opcode, encoded = sending opcode d (d.onWire r) d.answerType? ∧
    decoded = receiving d (d.onWire r) d.answerType?

/-! ## The statements of a class -/

section Class

variable (r : Registry) (i : Nat) (p : Member)

/-- The conditions of both emitters tell the class. -/
theorem branch_eq {α : Type} (handle structPointer pointer value : α) :
    (if r.isHandle p.typeName && !p.isPointer then handle
      else if r.isStruct p.typeName && p.isPointer then structPointer
      else if p.isPointer then pointer else value) =
      match WireClass.of r p with
      | .handle => handle
      | .structPointer => structPointer
      | .pointer => pointer
      | .value => value := by
  unfold WireClass.of
  cases p.isPointer <;> cases r.isStruct p.typeName <;> cases r.isHandle p.typeName <;> rfl

/-- The encoder writes the statements of a parameter's class. -/
theorem writeParameter_eq : Encoder.writeParameter r i p = (WireParam.of r i p).written := by
  unfold Encoder.writeParameter WireParam.of
  rw [branch_eq]
  unfold WireParam.written WireParam.box Sender.send bytesOf
  apply String.toList_injective
  cases WireClass.of r p <;> simp [lines_cons, lines_nil, toString]

/-- The decoder reads with the statements of a parameter's class. -/
theorem readParameter_eq : Decoder.readParameter r i p = (WireParam.of r i p).read := by
  unfold Decoder.readParameter WireParam.of
  rw [branch_eq]
  unfold WireParam.read WireParam.box Receiver.declare Receiver.allocate Receiver.take bytesOf
  apply String.toList_injective
  cases WireClass.of r p <;> simp [lines_cons, lines_nil, toString]

/-! Given the type, the name and the position, the statements of two classes differ, so they tell
the class. -/

theorem written_injective {c c' : WireClass} {type name : String} {slot : Nat}
    (h : (WireParam.mk c type name slot).written = (WireParam.mk c' type name slot).written) :
    c = c' := by
  have hchars := congrArg String.toList h
  unfold WireParam.written Sender.send at hchars
  -- A pointer and a value differ in an ampersand, all others in the first word.
  cases c <;> cases c' <;> first
    | rfl
    | simp at hchars

theorem read_injective {c c' : WireClass} {type name : String} {slot : Nat}
    (h : (WireParam.mk c type name slot).read = (WireParam.mk c' type name slot).read) :
    c = c' := by
  have hchars := congrArg String.toList h
  unfold WireParam.read Receiver.declare Receiver.take at hchars
  -- The declarations differ in a star, and what follows them in the first word.
  cases c <;> cases c' <;> first
    | rfl
    | simp at hchars

/-- A parameter is written in its class and in no other one. -/
theorem writeParameter_iff (c : WireClass) :
    Encoder.writeParameter r i p = (WireParam.mk c p.typeName p.name i).written ↔
      c = .of r p := by
  rw [writeParameter_eq, WireParam.of]
  exact ⟨fun h => (written_injective h).symm, fun h => by rw [h]⟩

/-- A parameter is read in its class and in no other one. -/
theorem readParameter_iff (c : WireClass) :
    Decoder.readParameter r i p = (WireParam.mk c p.typeName p.name i).read ↔ c = .of r p := by
  rw [readParameter_eq, WireParam.of]
  exact ⟨fun h => (read_injective h).symm, fun h => by rw [h]⟩

end Class

/-! ## The texts of a command -/

section Texts

variable (r : Registry) (d : CommandDef)

/-- What is rendered from the parameters on the wire is rendered from the parameters. -/
theorem map_onWire {render : WireParam → String} {write : Nat → Member → String}
    (h : ∀ i p, write i p = render (.of r i p)) :
    (d.onWire r).map render = d.params.mapIdx write := by
  apply List.ext_getElem?
  intro i
  rw [CommandDef.onWire, List.getElem?_map, List.getElem?_mapIdx, List.getElem?_mapIdx,
    Option.map_map]
  congr 1
  funext p
  exact (h i p).symm

theorem methodParameters_eq : Encoder.methodParameters d = Sender.parameters d := rfl

theorem argumentList_eq : d.argumentList = Receiver.arguments d := rfl

theorem readAnswer_eq : Encoder.readAnswer d = Sender.await d d.answerType? := by
  unfold Encoder.readAnswer CommandDef.answerType? CommandDef.returnsValue
  by_cases hvoid : d.returnType = "void"
  · rw [if_pos hvoid, if_neg (by simpa using hvoid)]
    rfl
  · rw [if_neg hvoid, if_pos (by simpa using hvoid)]
    unfold Sender.await Sender.take bytesOf
    apply String.toList_injective
    simp [lines_cons, lines_nil, toString]

theorem callDriver_eq : Decoder.callDriver d = Receiver.perform d d.answerType? := by
  unfold Decoder.callDriver CommandDef.answerType? CommandDef.returnsValue
  rw [argumentList_eq]
  by_cases hvoid : d.returnType = "void"
  · rw [if_pos hvoid, if_neg (by simpa using hvoid)]
    unfold Receiver.perform
    simp only [toString, String.append_assoc]
  · rw [if_neg hvoid, if_pos (by simpa using hvoid)]
    unfold Receiver.perform Receiver.send bytesOf
    apply String.toList_injective
    simp [lines_cons, lines_nil, toString]

/-- A method sends the number of its command first. -/
theorem lines_number (opcode : Nat) :
    lines [
      s!"    uint32_t opcode_{d.name} = OP_{d.name};",
      s!"    stream->write(&opcode_{d.name}, sizeof(uint32_t));",
      s!"    // opcode {opcode}"] =
      ("    uint32_t opcode_" ++ d.name ++ " = OP_" ++ d.name ++ ";\n" ++
        Sender.send ("&opcode_" ++ d.name) (bytesOf "uint32_t")) ++
      ("    // opcode " ++ toString opcode ++ "\n") := by
  unfold Sender.send bytesOf
  apply String.toList_injective
  simp [lines_cons, lines_nil, toString]

/-- The method of a command sends its parameters and waits for its answer. -/
theorem method_eq (opcode : Nat) :
    Encoder.method r opcode d = sending opcode d (d.onWire r) d.answerType? := by
  unfold Encoder.method Encoder.methodBody sending
  rw [map_onWire r d (writeParameter_eq r), readAnswer_eq, methodParameters_eq]
  rw [lines_cons, lines_cons, lines_number]
  simp only [lines_cons, lines_nil, toString, String.append_assoc, String.append_empty]

/-- The case of a command receives its parameters and sends its answer. -/
theorem case_eq :
    .inImplementation (Decoder.case r d) = receiving d (d.onWire r) d.answerType? := by
  unfold Decoder.case receiving
  rw [map_onWire r d (readParameter_eq r), callDriver_eq]
  simp only [toString, String.append_assoc]

/-- Whatever is known, what the emitters say of a command fits together. -/
theorem fits_command (e : Encoder) :
    Fits r d (Encoder.respond r (.element (.command d)) e).1
      (Decoder.emit r (.element (.command d))) := by
  by_cases halias : d.aliasOf.isSome = true
  · have hencoded : (Encoder.respond r (.element (.command d)) e).1 = .silent := by
      simp only [Encoder.respond, halias, if_true]
    have hdecoded : Decoder.emit r (.element (.command d)) = .silent := by
      simp only [Decoder.emit, halias, if_true]
    rw [hencoded, hdecoded]
    refine ⟨iff_of_true rfl halias, iff_of_true rfl halias, fun hbare => ?_⟩
    rw [hbare] at halias
    cases halias
  · have hencoded : (Encoder.respond r (.element (.command d)) e).1 =
        Encoder.method r e.nextOpcode d := by
      simp only [Encoder.respond, if_neg halias]
    have hdecoded : Decoder.emit r (.element (.command d)) =
        .inImplementation (Decoder.case r d) := by
      simp only [Decoder.emit, if_neg halias]
    rw [hencoded, hdecoded]
    refine ⟨iff_of_false ?_ halias, iff_of_false ?_ halias, fun _ => ?_⟩
    · exact StandardEmitter.numbers_encoder.speaks r e.nextOpcode d
    · exact StandardEmitter.numbers_decoder.speaks r 0 d
    · exact ⟨e.nextOpcode, method_eq r d e.nextOpcode, case_eq r d⟩

end Texts

/-! ## A command with a parameter of every class -/

def fenceCommand : CommandDef where
  name := "vkCreateFence"
  returnType := "VkResult"
  params := [
    { name := "device", typeName := "VkDevice" },
    .constPointer "pCreateInfo" "VkFenceInfo",
    { name := "flags", typeName := "VkFlags" },
    { name := "pFence", typeName := "VkFence", pointer := 1 }]

/-- The command, with an alias of it and the types of most of its parameters. -/
def fenceSchema : Schema where
  features := [
    { name := "VK_VERSION_1_0", elements := [
        .command fenceCommand,
        .struct { name := "VkFenceInfo" },
        .type { name := "VkDevice", kind := .handle },
        .type { name := "VkFence", kind := .handle },
        .command { name := "vkCreateFenceKHR", aliasOf := some "vkCreateFence" }] }]

/-- The types of a feature are known by the time its commands are introduced. -/
example : fenceCommand.onWire (fenceSchema.finalRegistry (.ofSupported ["VK_VERSION_1_0"])) = [
    ⟨.handle, "VkDevice", "device", 0⟩, ⟨.structPointer, "VkFenceInfo", "pCreateInfo", 1⟩,
    ⟨.value, "VkFlags", "flags", 2⟩, ⟨.pointer, "VkFence", "pFence", 3⟩] := by
  decide

end VulkanWire
