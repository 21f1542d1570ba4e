import Mathlib.Data.List.Forall2
import VulkanWire.Emitter.Standard
import VulkanWire.Proofs.Emitter.Numbering
import VulkanWire.Proofs.Generator.Hearing

/-!
# Both ends of a stream

The routine that reads a struct has to do the opposite of the one that writes
it: the same operations on the same members, in the same order. A statement that
writes and one that reads are paired here by the operation that both of them do,
statement by statement; the two routines of a struct are then statements paired
in this way, and those for guests and hosts have the same bodies. In a run, both
sides are told of the same structs with the same registry, so what one side
writes the other side reads.

## Main definitions

* `Mirrors` — the statements that write and read one operation.
* `StreamOp.Carries` — an operation is one on a given member.
* `Marshaling.Symmetric` — a routine that writes and one that reads a struct.
* `Marshaling.Mirrored` — what a guest and a host say of a struct.

## Main results

* `Marshaling.symmetric_bodies` — the bodies of a struct's two routines.
* `structs_travel_both_ways` — every struct of a run, on both sides.
-/

namespace VulkanWire

/-! ## Statements that mirror each other -/

namespace Statement

/-- Calls a routine of a struct on an argument. -/
def call (verb type argument : String) : String :=
  "    " ++ verb ++ "_" ++ type ++ "(vkStream, rootType, (" ++ type ++ "*)(" ++ argument ++ "));\n"

/-- Does a statement as many times as an expression says. -/
def loop (count statement : String) : String :=
  "    for (uint32_t i = 0; i < (uint32_t)" ++ count ++ "; ++i) \x7b\n" ++ "    " ++ statement ++
    "    \x7d\n"

/-- Moves bytes between the stream and an address. -/
def move (transfer type address size : String) : String :=
  "    vkStream->" ++ transfer ++ "((" ++ type ++ "*)" ++ address ++ ", " ++ size ++ ");\n"

/-- Declares eight bytes in a slot. -/
def reserve (slot : Nat) : String := "    uint64_t cgen_var_" ++ toString slot ++ ";\n"

end Statement

open Statement

/-- A statement that writes to a stream and the one that reads it back. A handle is mapped before
it is written and after it is read. -/
inductive Mirrors : StreamOp → String → String → Prop
  | extensionChain : Mirrors .extensionChain
      "    marshal_extension_struct(vkStream, rootType, forMarshaling->pNext);\n"
      "    unmarshal_extension_struct(vkStream, rootType, forUnmarshaling->pNext);\n"
  | handle (type field : String) (slot : Nat) : Mirrors (.handle type field slot)
      (reserve slot ++
        ("    vkStream->handleMapping()->mapHandles_" ++ type ++ "_u64(" ++ "&forMarshaling->" ++
          field ++ ", &cgen_var_" ++ toString slot ++ ", 1);\n") ++
        move "write" "uint64_t" ("&cgen_var_" ++ toString slot) "1 * 8")
      (reserve slot ++ move "read" "uint64_t" ("&cgen_var_" ++ toString slot) "1 * 8" ++
        ("    vkStream->handleMapping()->mapHandles_u64_" ++ type ++ "(&cgen_var_" ++ toString slot ++
          ", (" ++ type ++ "*)" ++ "&forUnmarshaling->" ++ field ++ ", 1);\n"))
  | structs (type field len : String) : Mirrors (.nested type field (.counted len))
      (loop ("forMarshaling->" ++ len) (call "marshal" type ("forMarshaling->" ++ field ++ " + i")))
      (loop ("forUnmarshaling->" ++ len)
        (call "unmarshal" type ("forUnmarshaling->" ++ field ++ " + i")))
  | structPointer (type field : String) : Mirrors (.nested type field .pointee)
      (call "marshal" type ("forMarshaling->" ++ field))
      (call "unmarshal" type ("forUnmarshaling->" ++ field))
  | struct (type field : String) : Mirrors (.nested type field .embedded)
      (call "marshal" type ("&forMarshaling->" ++ field))
      (call "unmarshal" type ("&forUnmarshaling->" ++ field))
  | text (field : String) : Mirrors (.text field)
      ("    vkStream->putString(" ++ "forMarshaling->" ++ field ++ ");\n")
      ("    vkStream->loadStringInPlace((char**)" ++ "&forUnmarshaling->" ++ field ++ ");\n")
  | values (type field len : String) : Mirrors (.bytes type field (.counted len))
      (move "write" type ("forMarshaling->" ++ field)
        ("((" ++ "forMarshaling->" ++ len ++ ")) * sizeof(" ++ type ++ ")"))
      (move "read" type ("forUnmarshaling->" ++ field)
        ("((" ++ "forUnmarshaling->" ++ len ++ ")) * sizeof(" ++ type ++ ")"))
  | valuePointer (type field : String) : Mirrors (.bytes type field .pointee)
      (move "write" type ("forMarshaling->" ++ field) ("sizeof(" ++ type ++ ")"))
      (move "read" type ("forUnmarshaling->" ++ field) ("sizeof(" ++ type ++ ")"))
  | value (type field : String) : Mirrors (.bytes type field .embedded)
      (move "write" type ("&forMarshaling->" ++ field) ("sizeof(" ++ type ++ ")"))
      (move "read" type ("&forUnmarshaling->" ++ field) ("sizeof(" ++ type ++ ")"))

namespace StreamOp

/-- An operation is the one on a member: on its field, with its type, and with the counts and sizes
that the member has. The kinds of members exclude each other, and bytes are for what is of no other
kind. -/
def Carries (r : Registry) (m : Member) : StreamOp → Prop
  | extensionChain => m.name = "pNext"
  | handle type field _ =>
    m.name ≠ "pNext" ∧ field = m.name ∧ type = m.typeName ∧ r.isHandle type = true ∧
      m.isPointer = false
  | nested type field shape =>
    m.name ≠ "pNext" ∧ ¬ (r.isHandle type = true ∧ m.isPointer = false) ∧ field = m.name ∧
      type = m.typeName ∧ r.isStruct type = true ∧ shape = m.shape
  | text field =>
    m.name ≠ "pNext" ∧ r.isStruct m.typeName = false ∧ field = m.name ∧ m.typeName = "char" ∧
      m.isPointer = true
  | bytes type field shape =>
    m.name ≠ "pNext" ∧ ¬ (r.isHandle type = true ∧ m.isPointer = false) ∧ r.isStruct type = false ∧
      ¬ (type = "char" ∧ m.isPointer = true) ∧ field = m.name ∧ type = m.typeName ∧ shape = m.shape

theorem carries_ofMember (r : Registry) (slot : Nat) (m : Member) : (ofMember r slot m).Carries r m := by
  unfold ofMember
  split
  · assumption
  · rename_i hchain
    split
    · rename_i hhandle
      rw [Bool.and_eq_true] at hhandle
      exact ⟨hchain, rfl, rfl, hhandle.1, by simpa using hhandle.2⟩
    · rename_i hhandle
      have hvalue : ¬ (r.isHandle m.typeName = true ∧ m.isPointer = false) := by
        simpa using hhandle
      split
      · rename_i hstruct
        exact ⟨hchain, hvalue, rfl, rfl, hstruct, rfl⟩
      · rename_i hstruct
        have hplain : r.isStruct m.typeName = false := by simpa using hstruct
        split
        · rename_i hchar
          rw [Bool.and_eq_true, decide_eq_true_eq] at hchar
          exact ⟨hchain, hplain, rfl, hchar.2, hchar.1⟩
        · rename_i hchar
          have hother : ¬ (m.typeName = "char" ∧ m.isPointer = true) := by
            rintro ⟨htype, hpointer⟩
            exact hchar (by simp [htype, hpointer])
          exact ⟨hchain, hvalue, hplain, hother, rfl, rfl, rfl⟩

/-! What a rendering spells with the words of a direction, a statement spells as a whole. -/

theorem render_nested (dir : Direction) (type field : String) (shape : Shape) :
    (nested type field shape).render dir =
      match shape with
      | .counted len => loop (dir.subject ++ "->" ++ len)
          (call dir.verb type (dir.subject ++ "->" ++ field ++ " + i"))
      | .pointee => call dir.verb type (dir.subject ++ "->" ++ field)
      | .embedded => call dir.verb type ("&" ++ dir.subject ++ "->" ++ field) := by
  unfold render loop call
  apply String.toList_injective
  cases shape <;> simp [lines_cons, lines_nil, toString]

theorem render_bytes (dir : Direction) (type field : String) (shape : Shape) :
    (bytes type field shape).render dir =
      match shape with
      | .counted len => move dir.transfer type (dir.subject ++ "->" ++ field)
          ("((" ++ dir.subject ++ "->" ++ len ++ ")) * sizeof(" ++ type ++ ")")
      | .pointee => move dir.transfer type (dir.subject ++ "->" ++ field) ("sizeof(" ++ type ++ ")")
      | .embedded =>
          move dir.transfer type ("&" ++ dir.subject ++ "->" ++ field) ("sizeof(" ++ type ++ ")") := by
  unfold render move
  apply String.toList_injective
  cases shape <;> simp [toString]

theorem mirrors_handle (type field : String) (slot : Nat) :
    Mirrors (handle type field slot) ((handle type field slot).render .marshal)
      ((handle type field slot).render .unmarshal) := by
  have hwritten : (handle type field slot).render .marshal = reserve slot ++
      ("    vkStream->handleMapping()->mapHandles_" ++ type ++ "_u64(" ++ "&forMarshaling->" ++
        field ++ ", &cgen_var_" ++ toString slot ++ ", 1);\n") ++
      move "write" "uint64_t" ("&cgen_var_" ++ toString slot) "1 * 8" := by
    unfold render reserve move
    apply String.toList_injective
    simp [Direction.subject, lines_cons, lines_nil, toString]
  have hread : (handle type field slot).render .unmarshal = reserve slot ++
      move "read" "uint64_t" ("&cgen_var_" ++ toString slot) "1 * 8" ++
      ("    vkStream->handleMapping()->mapHandles_u64_" ++ type ++ "(&cgen_var_" ++ toString slot ++
        ", (" ++ type ++ "*)" ++ "&forUnmarshaling->" ++ field ++ ", 1);\n") := by
    unfold render reserve move
    apply String.toList_injective
    simp [Direction.subject, lines_cons, lines_nil, toString]
  rw [hwritten, hread]
  exact .handle type field slot

/-- The two renderings of an operation mirror each other. -/
theorem mirrors_render (op : StreamOp) : Mirrors op (op.render .marshal) (op.render .unmarshal) := by
  cases op with
  | extensionChain => exact .extensionChain
  | handle type field slot => exact mirrors_handle type field slot
  | nested type field shape =>
      rw [render_nested, render_nested]
      cases shape with
      | counted len => exact .structs type field len
      | pointee => exact .structPointer type field
      | embedded => exact .struct type field
  | text field => exact .text field
  | bytes type field shape =>
      rw [render_bytes, render_bytes]
      cases shape with
      | counted len => exact .values type field len
      | pointee => exact .valuePointer type field
      | embedded => exact .value type field

end StreamOp

/-! ## The routines of a struct -/

/-- What happens to a member: an operation, and the statements at both ends of the stream. -/
structure Exchange where
  operation : StreamOp
  written : String
  read : String

/-- The statements mirror an operation on a member. -/
structure Exchange.Of (r : Registry) (m : Member) (x : Exchange) : Prop where
  carries : x.operation.Carries r m
  mirrors : Mirrors x.operation x.written x.read

namespace Marshaling

/-- The bodies of a routine that writes a struct and of one that reads it: member by member, in the
order of declaration, the statements at both ends of the stream. -/
def Symmetric (r : Registry) (d : StructDef) (writer reader : String) : Prop :=
  ∃ exchanges : List Exchange, List.Forall₂ (Exchange.Of r) d.members exchanges ∧
    writer = "    (void)rootType;\n" ++ String.join (exchanges.map (·.written)) ∧
    reader = "    (void)rootType;\n" ++ String.join (exchanges.map (·.read))

/-- The two routines of a struct for a type of streams, declared and defined. -/
def routines (stream name writer reader : String) : Emission :=
  let write := "void marshal_" ++ name ++ "(\n    " ++ stream ++
    "* vkStream,\n    VkStructureType rootType,\n    const " ++ name ++ "* forMarshaling)"
  let read := "void unmarshal_" ++ name ++ "(\n    " ++ stream ++
    "* vkStream,\n    VkStructureType rootType,\n    " ++ name ++ "* forUnmarshaling)"
  { header := write ++ ";\n\n" ++ (read ++ ";\n\n")
    implementation := write ++ " \x7b\n" ++ writer ++ "\x7d\n\n" ++
      (read ++ " \x7b\n" ++ reader ++ "\x7d\n\n") }

/-- What a guest and a host say of a struct. Both name the routines of an alias for those of its
target, and otherwise they define two routines with the same symmetric bodies. -/
def Mirrored (r : Registry) (d : StructDef) (guest host : Emission) : Prop :=
  match d.aliasOf with
  | some target =>
    guest = host ∧ guest = .inHeader
      ("#define marshal_" ++ d.name ++ " marshal_" ++ target ++ "\n\n" ++
        ("#define unmarshal_" ++ d.name ++ " unmarshal_" ++ target ++ "\n\n"))
  | none =>
    ∃ writer reader, Symmetric r d writer reader ∧
      guest = routines "VulkanStreamGuest" d.name writer reader ∧
      host = routines "VulkanStream" d.name writer reader

/-- The exchange that an operation stands for. -/
def exchange (op : StreamOp) : Exchange := ⟨op, op.render .marshal, op.render .unmarshal⟩

theorem forall₂_ofMembers (r : Registry) (slot : Nat) (ms : List Member) :
    List.Forall₂ (Exchange.Of r) ms ((StreamOp.ofMembers r slot ms).map exchange) := by
  induction ms generalizing slot with
  | nil => exact .nil
  | cons m ms ih =>
      rw [StreamOp.ofMembers, List.map_cons]
      exact .cons ⟨StreamOp.carries_ofMember r slot m, StreamOp.mirrors_render _⟩ (ih (slot + 1))

/-- The bodies of the two routines of a struct are symmetric. -/
theorem symmetric_bodies (r : Registry) (d : StructDef) :
    Symmetric r d (body r .marshal d) (body r .unmarshal d) := by
  have hwritten : ((operations r d).map exchange).map (·.written) =
      (operations r d).map (·.render .marshal) := List.map_map
  have hread : ((operations r d).map exchange).map (·.read) =
      (operations r d).map (·.render .unmarshal) := List.map_map
  refine ⟨(operations r d).map exchange, forall₂_ofMembers r 0 d.members, ?_, ?_⟩
  · rw [hwritten]
    rfl
  · rw [hread]
    rfl

theorem signature_marshal (side : Side) (name : String) :
    signature side .marshal name = "void marshal_" ++ name ++ "(\n    " ++ side.streamType ++
      "* vkStream,\n    VkStructureType rootType,\n    const " ++ name ++ "* forMarshaling)" := by
  unfold signature
  apply String.toList_injective
  simp [Direction.verb, Direction.qualifier, Direction.subject, toString]

theorem signature_unmarshal (side : Side) (name : String) :
    signature side .unmarshal name = "void unmarshal_" ++ name ++ "(\n    " ++ side.streamType ++
      "* vkStream,\n    VkStructureType rootType,\n    " ++ name ++ "* forUnmarshaling)" := by
  unfold signature
  apply String.toList_injective
  simp [Direction.verb, Direction.qualifier, Direction.subject, toString]

theorem ofStruct_of_bare {d : StructDef} (h : d.aliasOf = none) (side : Side) (r : Registry) :
    ofStruct side r d =
      routines side.streamType d.name (body r .marshal d) (body r .unmarshal d) := by
  unfold ofStruct routines
  rw [h]
  simp only [Direction.both, List.map_cons, List.map_nil, Emission.concat_cons, Emission.concat_nil,
    Emission.append_silent, routine, ← signature_marshal, ← signature_unmarshal]
  rfl

theorem rename_marshal (name target : String) :
    rename name target .marshal =
      .inHeader ("#define marshal_" ++ name ++ " marshal_" ++ target ++ "\n\n") := by
  unfold rename
  refine congrArg Emission.inHeader (String.toList_injective ?_)
  simp [Direction.verb, toString]

theorem rename_unmarshal (name target : String) :
    rename name target .unmarshal =
      .inHeader ("#define unmarshal_" ++ name ++ " unmarshal_" ++ target ++ "\n\n") := by
  unfold rename
  refine congrArg Emission.inHeader (String.toList_injective ?_)
  simp [Direction.verb, toString]

theorem ofStruct_of_alias {d : StructDef} {target : String} (h : d.aliasOf = some target)
    (side : Side) (r : Registry) :
    ofStruct side r d = .inHeader
      ("#define marshal_" ++ d.name ++ " marshal_" ++ target ++ "\n\n" ++
        ("#define unmarshal_" ++ d.name ++ " unmarshal_" ++ target ++ "\n\n")) := by
  unfold ofStruct
  rw [h]
  simp only [Direction.both, List.map_cons, List.map_nil, rename_marshal, rename_unmarshal,
    Emission.concat_cons, Emission.concat_nil, Emission.append_silent]
  rfl

/-- What the two sides say of a struct mirrors each other. -/
theorem mirrored_ofStruct (r : Registry) (d : StructDef) :
    Mirrored r d (ofStruct .guest r d) (ofStruct .host r d) := by
  unfold Mirrored
  split
  · rename_i target halias
    rw [ofStruct_of_alias halias, ofStruct_of_alias halias]
    exact ⟨rfl, rfl⟩
  · rename_i halias
    exact ⟨_, _, symmetric_bodies r d, ofStruct_of_bare halias .guest r,
      ofStruct_of_bare halias .host r⟩

/-! ## The structs of a run -/

theorem side_respond (r : Registry) (c : Callback) (m : Marshaling) :
    (m.respond r c).2.side = m.side := by
  unfold respond
  split
  · split <;> rfl
  · rfl
  · split <;> rfl
  · split <;> rfl
  · rfl

/-- An emitter does marshaling for a side. -/
def OnSide (side : Side) (e : StandardEmitter) : Prop := ∃ m : Marshaling, e = .marshaling m ∧ m.side = side

theorem OnSide.after {side : Side} (c : Cue) (e : StandardEmitter) (h : OnSide side e) :
    OnSide side (c.after e) := by
  obtain ⟨m, rfl, hside⟩ := h
  exact ⟨_, rfl, (side_respond c.registry c.callback m).trans hside⟩

/-- What marshaling answers to a struct depends on the side alone. -/
theorem text_of_answered {side : Side} {i : Introduction} {d : StructDef} {p : Piece}
    (h : Answered (OnSide side) i.cue p) (hd : i.definition = .struct d) :
    p.text = ofStruct side i.registry d := by
  obtain ⟨-, e, ⟨m, rfl, rfl⟩, htext⟩ := h
  rw [htext, Introduction.cue, hd]
  rfl

end Marshaling

open Marshaling

/-! A struct with a member of nearly every kind, one that it holds, and an alias of that one. -/

def offsetStruct : StructDef where
  name := "VkOffset2D"
  members := [{ name := "x", typeName := "int32_t" }, { name := "y", typeName := "int32_t" }]

def imageStruct : StructDef where
  name := "VkImageInfo"
  members := [
    .constPointer "pNext" "void",
    { name := "image", typeName := "VkImage" },
    { name := "count", typeName := "uint32_t" },
    { name := "pOffsets", typeName := "VkOffset2DKHR", pointer := 1, len := some "count" },
    .constPointer "pName" "char"]

def imageSchema : Schema where
  features := [
    { name := "VK_VERSION_1_0", elements := [
        .struct offsetStruct, .struct imageStruct,
        .struct { name := "VkOffset2DKHR", aliasOf := some "VkOffset2D" },
        .type { name := "VkImage", kind := .handle }] }]

def imageGate : FeatureGate := .ofSupported ["VK_VERSION_1_0"]

/-- The struct that is held is known under its alias only once the alias is introduced, so the
operations are those of the registry in the end. -/
example : operations (imageSchema.finalRegistry imageGate) imageStruct = [
    .extensionChain, .handle "VkImage" "image" 1, .bytes "uint32_t" "count" .embedded,
    .nested "VkOffset2DKHR" "pOffsets" (.counted "count"), .text "pName"] := by
  decide

def streamSpecs : List ModuleSpec :=
  [.ofBasename "marshaling_guest" .guestEncoder, .ofBasename "marshaling" .host]

def streamBindings : List (Binding StandardEmitter) :=
  [⟨.marshaling { side := .guest }, "marshaling_guest"⟩, ⟨.marshaling { side := .host }, "marshaling"⟩]

theorem stream_sound : Generator.Sound none streamSpecs streamBindings where
  distinct := by decide
  known := by decide
  kept := by
    intro name h
    cases h

section Run

variable {o : GeneratorOptions} {gate : FeatureGate} {specs : List ModuleSpec}
  {bindings : List (Binding StandardEmitter)} {s : Schema} {g : Generator StandardEmitter}
  {b b' : Binding StandardEmitter}

/-- Whatever is known, both sides of the protocol write and read a struct by the same operations in
the same order. In a run with marshaling for guests and for hosts, the modules of both sides hold
their answers to the same definitions, one by one with the same registry, and the answers to every
struct among them mirror each other. -/
theorem structs_travel_both_ways (hg : Generator.assemble o gate specs bindings = .ok g)
    (hs : s.validate = .ok ()) (disk : Disk) (hb : b ∈ bindings) (hb' : b' ∈ bindings)
    (hguest : b.emitter = .marshaling { side := .guest })
    (hhost : b'.emitter = .marshaling { side := .host }) :
    (∀ r d, Mirrored r d (ofStruct .guest r d) (ofStruct .host r d)) ∧
      ∃ report g' disk', (g.run s : OnDisk _).run disk = ((.ok report, g'), disk') ∧
        g'.HoldsAnswers s gate b ∧ g'.HoldsAnswers s gate b' ∧
        ∃ pairs : List (Piece × Piece),
          pairs.map (·.1) = (s.answers gate b.emitter).filter Piece.isElement ∧
          pairs.map (·.2) = (s.answers gate b'.emitter).filter Piece.isElement ∧
          List.Forall₂ (fun i p => p.1.cue? = some i.cue ∧ p.2.cue? = some i.cue ∧
              ∀ d, i.definition = .struct d → Mirrored i.registry d p.1.text p.2.text)
            (s.introductions gate .marshaling) pairs := by
  obtain ⟨report, g', disk', hrun, -, hheld⟩ :=
    Generator.exists_run_answers StandardEmitter.kind_after hg hs disk
  have hkind : Emitter.kind b.emitter = .marshaling := by
    rw [hguest]
    rfl
  have hkind' : Emitter.kind b'.emitter = .marshaling := by
    rw [hhost]
    rfl
  obtain ⟨pairs, hfst, hsnd, hpairs⟩ := exists_paired_answers OnSide.after OnSide.after
    ⟨_, hguest, rfl⟩ ⟨_, hhost, rfl⟩ hkind hkind' (show s.introductions gate .marshaling = _ from rfl)
  refine ⟨mirrored_ofStruct, report, g', disk', hrun, hheld b hb, hheld b' hb', pairs, hfst, hsnd,
    hpairs.imp ?_⟩
  rintro i p ⟨hfirst, hsecond⟩
  refine ⟨hfirst.1, hsecond.1, fun d hd => ?_⟩
  rw [text_of_answered hfirst hd, text_of_answered hsecond hd]
  exact mirrored_ofStruct i.registry d

/-- The two marshaling modules of the small schema, generated into an empty file system. -/
theorem structs_travel_both_ways_sample :
    (∀ r d, Mirrored r d (ofStruct .guest r d) (ofStruct .host r d)) ∧
      ∃ report g' disk',
        ((Generator.assembled { outputDir := "out" } imageGate streamSpecs streamBindings).run
          imageSchema : OnDisk _).run ⟨[], []⟩ = ((.ok report, g'), disk') ∧
        g'.HoldsAnswers imageSchema imageGate
          ⟨.marshaling { side := .guest }, "marshaling_guest"⟩ ∧
        g'.HoldsAnswers imageSchema imageGate ⟨.marshaling { side := .host }, "marshaling"⟩ ∧
        ∃ pairs : List (Piece × Piece),
          pairs.map (·.1) = (imageSchema.answers imageGate
            (StandardEmitter.marshaling { side := .guest })).filter Piece.isElement ∧
          pairs.map (·.2) = (imageSchema.answers imageGate
            (StandardEmitter.marshaling { side := .host })).filter Piece.isElement ∧
          List.Forall₂ (fun i p => p.1.cue? = some i.cue ∧ p.2.cue? = some i.cue ∧
              ∀ d, i.definition = .struct d → Mirrored i.registry d p.1.text p.2.text)
            (imageSchema.introductions imageGate .marshaling) pairs :=
  structs_travel_both_ways (Generator.assemble_eq_ok_iff.mpr ⟨stream_sound, rfl⟩) rfl ⟨[], []⟩
    List.mem_cons_self (List.mem_cons_of_mem _ (List.mem_singleton_self _)) rfl rfl

end Run

end VulkanWire
