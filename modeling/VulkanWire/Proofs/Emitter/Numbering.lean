import VulkanWire.Emitter.Standard
import VulkanWire.Proofs.Generator.Origins

/-!
# Emitters that number commands

Marshaling keeps a list of the commands it has numbered, the encoder only the
next number, and the decoder nothing at all. All three answer to the same
commands, and the first two with the same numbers.

## Main results

* `numbers_marshaling`, `numbers_encoder`, `numbers_decoder` — what each answers
  to the commands it hears.
* `answer_aliased` — to an alias none of them answers anything.
* `Marshaling.fields_respond` — marshaling that counts says the same.
-/

namespace VulkanWire.StandardEmitter

/-- The kinds of emitters that take part in the wire protocol of commands. -/
def wireKinds : List EmitterKind := [.marshaling, .encoder, .decoder]

/-- How marshaling defines the number of a command. -/
def definition (opcode : Nat) (d : CommandDef) : Emission :=
  .inHeader s!"#define OP_{d.name} {opcode}\n"

/-- The commands with their numbers. -/
def table (commands : List CommandDef) : List (String × Nat) :=
  commands.mapIdx fun i d => (d.name, opcodeBase + i)

/-- The definition of a command determines the number. -/
theorem definition_injective {m n : Nat} {d : CommandDef}
    (h : definition m d = definition n d) : m = n := by
  have hheader : s!"#define OP_{d.name} {m}\n" = s!"#define OP_{d.name} {n}\n" :=
    congrArg Emission.header h
  have hdigits := congrArg String.toList hheader
  simp only [String.toList_append, List.append_cancel_left_eq, List.append_cancel_right_eq,
    Nat.toString_eq_ofList_toDigits, String.toList_ofList] at hdigits
  rw [← Nat.ofDigitChars_ten_toDigits (n := m), hdigits, Nat.ofDigitChars_ten_toDigits]

theorem map_fst_table (commands : List CommandDef) :
    (table commands).map Prod.fst = commands.map (·.name) := by
  apply List.ext_getElem?
  intro i
  rw [table, List.getElem?_map, List.getElem?_mapIdx, List.getElem?_map, Option.map_map]
  rfl

theorem kind_after (c : Cue) (e : StandardEmitter) : Emitter.kind (c.after e) = Emitter.kind e :=
  kind_respond c.registry c.callback e

theorem append_ne_empty {text : String} (h : text ≠ "") (more : String) : text ++ more ≠ "" := by
  intro heq
  have hchars : text.toList ++ more.toList = [] := by
    rw [← String.toList_append, heq, String.toList_empty]
  exact h (String.toList_eq_nil_iff.mp (List.append_eq_nil_iff.mp hchars).1)

theorem inHeader_ne_silent {text : String} (h : text ≠ "") : Emission.inHeader text ≠ .silent := by
  intro heq
  exact h (congrArg Emission.header heq)

theorem inImplementation_ne_silent {text : String} (h : text ≠ "") :
    Emission.inImplementation text ≠ .silent := by
  intro heq
  exact h (congrArg Emission.implementation heq)

/-- To an alias no emitter of the wire protocol answers anything. -/
theorem answer_aliased {e : StandardEmitter} (hkind : Emitter.kind e ∈ wireKinds) {r : Registry}
    {d : CommandDef} (h : d.aliasOf.isSome = true) :
    (Cue.mk r (.element (.command d))).answer e = .silent := by
  cases e with
  | marshaling m =>
      show (Marshaling.respond r (.element (.command d)) m).1 = .silent
      simp only [Marshaling.respond, h, if_true]
  | encoder m =>
      show (Encoder.respond r (.element (.command d)) m).1 = .silent
      simp only [Encoder.respond, h, if_true]
  | decoder =>
      show Decoder.emit r (.element (.command d)) = .silent
      simp only [Decoder.emit, h, if_true]
  | extensionStructs => exact absurd hkind (by decide)
  | deepCopy => exact absurd hkind (by decide)
  | transform tracker => exact absurd hkind (show EmitterKind.transform ∉ wireKinds by decide)
  | dispatch state => exact absurd hkind (show EmitterKind.dispatch ∉ wireKinds by decide)
  | functionTable state => exact absurd hkind (show EmitterKind.functionTable ∉ wireKinds by decide)
  | structureType values => exact absurd hkind (show EmitterKind.structureType ∉ wireKinds by decide)

/-- A cue for a command that is no alias. -/
theorem exists_live {c : Cue} {d : CommandDef} (h : c.liveCommand? = some d) :
    ∃ r, c = ⟨r, .element (.command d)⟩ ∧ ¬ d.aliasOf.isSome = true := by
  obtain ⟨r, rfl⟩ := Cue.exists_of_liveCommand? h
  refine ⟨r, rfl, ?_⟩
  intro halias
  simp only [Cue.liveCommand?, Element.liveCommand?, halias, if_true] at h
  cases h

/-! ## The decoder -/

/-- The decoder answers to a command with its case. -/
theorem numbers_decoder :
    Numbers (ε := StandardEmitter) .decoder (fun _ e => e = .decoder)
      (fun r _ d => .inImplementation (Decoder.case r d)) where
  kind := by
    rintro cs e rfl
    rfl
  aliased := by
    rintro cs e rfl r d h
    exact answer_aliased (by decide) h
  other := by
    rintro cs e rfl c -
    rfl
  live := by
    rintro cs e rfl c d h
    obtain ⟨r, rfl, halias⟩ := exists_live h
    refine ⟨?_, rfl⟩
    show Decoder.emit r (.element (.command d)) = _
    simp only [Decoder.emit, if_neg halias]
  speaks := by
    intro r n d
    have htext : Decoder.case r d ≠ "" := by
      unfold Decoder.case
      have hhead : "            case OP_" ≠ "" := by decide
      exact append_ne_empty (append_ne_empty (append_ne_empty (append_ne_empty
        (append_ne_empty hhead _) _) _) _) _
    exact inImplementation_ne_silent htext

/-! ## The encoder -/

/-- Whatever is not a command of its own right leaves the encoder as it is. -/
theorem encoder_of_quiet {c : Cue} (h : c.liveCommand? = none) (m : Encoder) :
    (m.respond c.registry c.callback).2 = m := by
  obtain ⟨r, callback⟩ := c
  cases callback with
  | element d =>
      cases d with
      | command d =>
          have halias : d.aliasOf.isSome = true := by
            simpa [Cue.liveCommand?, Element.liveCommand?, Option.isSome_iff_ne_none] using h
          simp only [Encoder.respond, halias, if_true]
      | type d => rfl
      | struct d => rfl
      | group d => rfl
      | enum d => rfl
  | start => rfl
  | enterFeature name kind => rfl
  | requireCommand name => rfl
  | leaveFeature => rfl
  | finish => rfl

/-- The encoder answers to a command with its method and counts on. -/
theorem numbers_encoder :
    Numbers (ε := StandardEmitter) .encoder (fun cs e => e = .encoder ⟨opcodeBase + cs.length⟩)
      Encoder.method where
  kind := by
    rintro cs e rfl
    rfl
  aliased := by
    rintro cs e rfl r d h
    exact answer_aliased (show EmitterKind.encoder ∈ wireKinds by decide) h
  other := by
    rintro cs e rfl c h
    show StandardEmitter.encoder (Encoder.respond c.registry c.callback _).2 = _
    rw [encoder_of_quiet h]
  live := by
    rintro cs e rfl c d h
    obtain ⟨r, rfl, halias⟩ := exists_live h
    have hstep : Encoder.respond r (.element (.command d)) ⟨opcodeBase + cs.length⟩ =
        (Encoder.method r (opcodeBase + cs.length) d, ⟨opcodeBase + cs.length + 1⟩) := by
      simp only [Encoder.respond, if_neg halias]
    constructor
    · show (Encoder.respond r (.element (.command d)) ⟨opcodeBase + cs.length⟩).1 = _
      rw [hstep]
    · show StandardEmitter.encoder (Encoder.respond r (.element (.command d)) _).2 = _
      rw [hstep, List.length_append, List.length_singleton, Nat.add_assoc]
  speaks := by
    intro r n d heq
    have hheader : (Encoder.method r n d).header = "" := congrArg Emission.header heq
    have hindent : "    " ≠ "" := by decide
    unfold Encoder.method at hheader
    exact append_ne_empty (append_ne_empty (append_ne_empty (append_ne_empty (append_ne_empty
      (append_ne_empty hindent _) _) _) _) _) _ hheader

/-! ## Marshaling -/

/-- Marshaling of a side that has numbered some commands. -/
def HasNumbered (side : Side) (commands : List CommandDef) (e : StandardEmitter) : Prop :=
  ∃ m : Marshaling, e = .marshaling m ∧ m.side = side ∧
    m.opcodes.map (fun o => (o.command, o.value)) = table commands

/-- Whatever is not a command of its own right leaves marshaling as it is. -/
theorem marshaling_of_quiet {c : Cue} (h : c.liveCommand? = none) (m : Marshaling) :
    (m.respond c.registry c.callback).2 = m := by
  obtain ⟨side, opcodes⟩ := m
  obtain ⟨r, callback⟩ := c
  cases callback with
  | element d =>
      cases d with
      | command d =>
          have halias : d.aliasOf.isSome = true := by
            simpa [Cue.liveCommand?, Element.liveCommand?, Option.isSome_iff_ne_none] using h
          simp only [Marshaling.respond, halias, if_true]
      | type d => rfl
      | struct d => rfl
      | group d => rfl
      | enum d => rfl
  | start => cases side <;> rfl
  | enterFeature name kind => rfl
  | requireCommand name => rfl
  | leaveFeature => rfl
  | finish => cases side <;> rfl

/-- The next number of marshaling is as many as it has numbered after the base. -/
theorem nextOpcode_of_table {m : Marshaling} {commands : List CommandDef}
    (h : m.opcodes.map (fun o => (o.command, o.value)) = table commands) :
    m.nextOpcode = opcodeBase + commands.length := by
  have hlength := congrArg List.length h
  rw [List.length_map, table, List.length_mapIdx] at hlength
  rw [Marshaling.nextOpcode, hlength]

/-- Marshaling answers to a command with the definition of its number and keeps both. -/
theorem numbers_marshaling (side : Side) :
    Numbers .marshaling (HasNumbered side) (fun _ => definition) where
  kind := by
    rintro cs e ⟨m, rfl, -, -⟩
    rfl
  aliased := by
    rintro cs e ⟨m, rfl, -, -⟩ r d h
    exact answer_aliased (show EmitterKind.marshaling ∈ wireKinds by decide) h
  other := by
    rintro cs e ⟨m, rfl, hside, htable⟩ c h
    refine ⟨m, ?_, hside, htable⟩
    show StandardEmitter.marshaling (Marshaling.respond c.registry c.callback m).2 = _
    rw [marshaling_of_quiet h]
  live := by
    rintro cs e ⟨m, rfl, hside, htable⟩ c d h
    obtain ⟨r, rfl, halias⟩ := exists_live h
    have hnext := nextOpcode_of_table htable
    have hstep : Marshaling.respond r (.element (.command d)) m =
        (.inHeader (Marshaling.renderOpcode (m.opcodeOf r d)),
          { m with opcodes := m.opcodes ++ [m.opcodeOf r d] }) := by
      simp only [Marshaling.respond, if_neg halias]
    constructor
    · show (Marshaling.respond r (.element (.command d)) m).1 = _
      rw [hstep, Marshaling.opcodeOf, hnext]
      rfl
    · refine ⟨{ m with opcodes := m.opcodes ++ [m.opcodeOf r d] }, ?_, hside, ?_⟩
      · show StandardEmitter.marshaling (Marshaling.respond r (.element (.command d)) m).2 = _
        rw [hstep]
      · rw [List.map_append, htable, table, table, List.mapIdx_append]
        simp [Marshaling.opcodeOf, hnext]
  speaks := by
    intro r n d
    have hdefine : "#define OP_" ≠ "" := by decide
    exact inHeader_ne_silent (append_ne_empty (append_ne_empty (append_ne_empty
      (append_ne_empty hdefine _) _) _) _)

/-- At the end the host's marshaling names the numbers of exactly the commands it has numbered. -/
theorem answer_finish {commands : List CommandDef} {e : StandardEmitter}
    (h : HasNumbered .host commands e) (r : Registry) :
    ∃ os : List Opcode, os.map (fun o => (o.command, o.value)) = table commands ∧
      (Cue.mk r .finish).answer e = .inImplementation (Marshaling.nameTable os) := by
  obtain ⟨m, rfl, hside, htable⟩ := h
  refine ⟨m.opcodes, htable, ?_⟩
  show (Marshaling.respond r .finish m).1 = _
  simp only [Marshaling.respond, hside]

end VulkanWire.StandardEmitter

/-! ## A counter of its own

The next number can be read off the commands that marshaling keeps. It can also be counted, beside
them, and given out by the counter. -/

namespace VulkanWire.Marshaling

/-- Marshaling that counts. -/
structure Fields where
  side : Side
  nextOpcode : Nat := opcodeBase
  opcodes : List Opcode := []

/-- The text for a step and the fields after it: the counter numbers commands, and what is said
otherwise does not depend on it. -/
def Fields.respond (r : Registry) (c : Callback) (f : Fields) : Emission × Fields :=
  match c with
  | .element (.command d) =>
    if d.aliasOf.isSome then (.silent, f)
    else
      (.inHeader s!"#define OP_{d.name} {f.nextOpcode}\n",
        { f with
          nextOpcode := f.nextOpcode + 1
          opcodes := f.opcodes ++ [⟨d.name, f.nextOpcode, r.currentFeature?⟩] })
  | c => ((Marshaling.respond r c ⟨f.side, f.opcodes⟩).1, f)

/-- The fields after the answers to cues. -/
def Fields.told (f : Fields) (cues : List Cue) : Fields :=
  cues.foldl (fun f c => (f.respond c.registry c.callback).2) f

/-- The fields that hold what marshaling holds. -/
def fields (m : Marshaling) : Fields := ⟨m.side, m.nextOpcode, m.opcodes⟩

/-- Marshaling that counts says the same and keeps the same. -/
theorem fields_respond (m : Marshaling) (r : Registry) (c : Callback) :
    m.fields.respond r c = ((m.respond r c).1, (m.respond r c).2.fields) := by
  have hquiet : ∀ c : Callback, (Cue.mk r c).liveCommand? = none →
      ((m.respond r c).1, m.fields) = ((m.respond r c).1, (m.respond r c).2.fields) := by
    intro c h
    have hkept : (m.respond r c).2 = m := StandardEmitter.marshaling_of_quiet h m
    rw [hkept]
  cases c with
  | element e =>
      cases e with
      | command d =>
          by_cases halias : d.aliasOf.isSome = true
          · simp only [Fields.respond, respond, if_pos halias]
          · have hcount : (m.fields.respond r (.element (.command d))).2.nextOpcode =
                nextOpcode { m with opcodes := m.opcodes ++ [m.opcodeOf r d] } := by
              simp only [Fields.respond, if_neg halias, fields, nextOpcode, List.length_append,
                List.length_singleton, Nat.add_assoc]
            simp only [Fields.respond, if_neg halias] at hcount ⊢
            simp only [respond, if_neg halias]
            rw [hcount]
            rfl
      | type d => exact hquiet _ rfl
      | struct d => exact hquiet _ rfl
      | group d => exact hquiet _ rfl
      | enum d => exact hquiet _ rfl
  | start => exact hquiet _ rfl
  | enterFeature name kind => exact hquiet _ rfl
  | requireCommand name => exact hquiet _ rfl
  | leaveFeature => exact hquiet _ rfl
  | finish => exact hquiet _ rfl

theorem fields_told (m : Marshaling) (cues : List Cue) :
    m.fields.told cues =
      (cues.foldl (fun m c => (m.respond c.registry c.callback).2) m).fields := by
  induction cues generalizing m with
  | nil => rfl
  | cons c cues ih =>
      show ((m.fields.respond c.registry c.callback).2).told cues = _
      rw [fields_respond, ih]
      rfl

/-- So after any cues the counter is as many after the base as commands have been numbered. -/
theorem Fields.nextOpcode_told (side : Side) (cues : List Cue) :
    (Fields.told { side } cues).nextOpcode =
      opcodeBase + (Fields.told { side } cues).opcodes.length := by
  have hfields : Fields.told { side } cues = _ := fields_told { side } cues
  rw [hfields]
  rfl

end VulkanWire.Marshaling
