import VulkanWire.Proofs.Emitter.NameTable
import VulkanWire.Proofs.Emitter.Parameters
import VulkanWire.Proofs.Gfxstream.Layout

/-!
# Guest and host agree on opcodes

Four modules of the gfxstream build number commands on their own: both sides'
marshaling, the encoder and the decoder. The restrictions of the build name
none of their kinds, whatever features are added, so all four hear the same
commands in the same order, and what they say about the i-th is about the same
command and carries the same number.

## Main definitions

* `ListsNames` — the table of names that a module ends with.
* `Lockstep` — what the modules of the wire protocol say about commands.

## Main results

* `unnamed_wire` — no restriction names a kind of the wire protocol.
* `opcodes_agree` — the four modules after a complete run.
-/

namespace VulkanWire

namespace Gfxstream

open Generator StandardEmitter

/-- No restriction names a kind of the wire protocol. -/
theorem unnamed_wire (extraFeatures : List String) {kind : EmitterKind} (h : kind ∈ wireKinds) :
    (gate extraFeatures).Unnamed kind := by
  refine unnamed_gate extraFeatures ?_
  revert kind
  decide

/-- The modules that take part in the wire protocol of commands. -/
def wireModules : List String :=
  ["VkEncoder", "goldfish_vk_marshaling_guest", "goldfish_vk_marshaling", "VkDecoder"]

/-- The pieces of a module end with a routine that names numbers. Its cases are those of `placed`, in
this order and in blocks as long as they can be, each under the guard of its feature. -/
def ListsNames (pieces : List Piece) (placed : List (Option String × String)) : Prop :=
  ∃ r blocks, MaximalRuns placed blocks ∧
    pieces.getLast? = some ⟨some ⟨r, .finish⟩, .inImplementation (Marshaling.tableStart ++
      sourceText Marshaling.caseOf (blocks.flatMap Block.lines) ++ Marshaling.tableEnd)⟩

/-- What the pieces of a module say about commands, where it takes part in the wire protocol. -/
structure Lockstep (gate : FeatureGate) (commands : List CommandDef) (module : String)
    (pieces : List Piece) : Prop where
  /-- Marshaling defines the i-th command's number on both sides. -/
  defines : module = "goldfish_vk_marshaling_guest" ∨ module = "goldfish_vk_marshaling" →
    Numbered (fun _ opcode d => .inHeader s!"#define OP_{d.name} {opcode}\n") 20000 commands
      (pieces.filterMap Piece.command?)
  /-- The i-th method of the encoder sends the i-th command and carries its number. -/
  methods : module = "VkEncoder" →
    Numbered (fun r opcode d => sending opcode d (d.onWire r) d.answerType?) 20000 commands
      (pieces.filterMap Piece.command?)
  /-- The i-th case of the decoder receives the i-th command, under the label of its name. -/
  cases : module = "VkDecoder" →
    Numbered (fun r _ d => receiving d (d.onWire r) d.answerType?) 20000 commands
      (pieces.filterMap Piece.command?)
  /-- The host's marshaling ends with a case for each of these commands and for nothing else. -/
  names : module = "goldfish_vk_marshaling" → ∃ placed,
    placed.map Prod.snd = commands.map (·.name) ∧ ListsNames pieces placed
  /-- Nothing is said about aliases. -/
  aliases : module ∈ wireModules → ∀ p ∈ pieces, ∀ r d,
    p.cue? = some ⟨r, .element (.command d)⟩ → d.aliasOf.isSome = true → p.text = .silent
  /-- Nothing is said inside restricted features. -/
  restricted : module ∈ wireModules → ∀ p ∈ pieces, ∀ c, p.cue? = some c →
    ∀ name, c.registry.currentFeature? = some name → gate.restriction? name = none

section

variable {extraFeatures : List String} {s : Schema} {m : OutputModule}

/-- A module of the wire protocol has a single emitter, of a kind that no restriction names. -/
theorem exists_emitter (h : m.name ∈ wireModules) :
    ∃ e : StandardEmitter, boundTo m.name bindings = [e] ∧ Emitter.kind e ∈ wireKinds := by
  have hall : ∀ name ∈ wireModules, ∃ e : StandardEmitter, boundTo name bindings = [e] ∧
      Emitter.kind e ∈ wireKinds := by
    intro name hname
    simp only [wireModules, List.mem_cons, List.not_mem_nil, or_false] at hname
    rcases hname with rfl | rfl | rfl | rfl
    · exact ⟨.encoder {}, by decide, by decide⟩
    · exact ⟨.marshaling { side := .guest }, by decide, by decide⟩
    · exact ⟨.marshaling { side := .host }, by decide, by decide⟩
    · exact ⟨.decoder, by decide, by decide⟩
  exact hall m.name h

/-- An emitter of the wire protocol that is alone in its module numbers the live commands. -/
theorem numbered_pieces {kind : EmitterKind} {inv : List CommandDef → StandardEmitter → Prop}
    {render : Registry → Nat → CommandDef → Emission} {e : StandardEmitter}
    (hnumbers : Numbers kind inv render) (hinv : inv [] e) (hkind : kind ∈ wireKinds)
    (hbound : boundTo m.name bindings = [e]) :
    Numbered render 20000 (s.liveCommands (gate extraFeatures))
      ((m.pieces (gate extraFeatures) s bindings).filterMap Piece.command?) := by
  have hrun := (hnumbers.performance hinv m.usesGuards (s.script (gate extraFeatures))).1
  rw [flatMap_live_script (unnamed_wire extraFeatures hkind)] at hrun
  rw [OutputModule.pieces, hbound]
  exact hrun

/-- The last piece of the host's marshaling names the live commands. -/
theorem listsNames_pieces (h : m.name = "goldfish_vk_marshaling") :
    ∃ placed, placed.map Prod.snd = (s.liveCommands (gate extraFeatures)).map (·.name) ∧
      ListsNames (m.pieces (gate extraFeatures) s bindings) placed := by
  have hbound : boundTo m.name bindings = [.marshaling { side := .host }] := by
    rw [h]
    decide
  have hinv : HasNumbered .host [] (.marshaling { side := .host }) := ⟨_, rfl, rfl, rfl⟩
  have hend := ((numbers_marshaling .host).performance hinv m.usesGuards
    (s.opening (gate extraFeatures))).2
  rw [flatMap_live_opening (unnamed_wire extraFeatures (by decide)), List.nil_append] at hend
  obtain ⟨os, htable, hanswer⟩ := answer_finish hend (s.finalRegistry (gate extraFeatures))
  rw [Marshaling.nameTable_eq] at hanswer
  have hnames : (os.map Marshaling.placeOf).map Prod.snd =
      (s.liveCommands (gate extraFeatures)).map (·.name) := by
    have hfirst := congrArg (List.map Prod.fst) htable
    rw [map_fst_table, List.map_map] at hfirst
    rw [← hfirst, List.map_map]
    rfl
  refine ⟨os.map Marshaling.placeOf, hnames, s.finalRegistry (gate extraFeatures), _,
    Block.maximalRuns_runs _, ?_⟩
  rw [OutputModule.pieces, hbound, Schema.script_eq_opening_append, performance_append,
    List.map_singleton, ← hanswer]
  exact List.getLast?_concat

/-- What the pieces of any module of the build say about commands. -/
theorem lockstep_pieces :
    Lockstep (gate extraFeatures) (s.liveCommands (gate extraFeatures)) m.name
      (m.pieces (gate extraFeatures) s bindings) where
  defines := by
    rintro (hname | hname)
    · exact numbered_pieces (e := .marshaling { side := .guest }) (numbers_marshaling .guest)
        ⟨_, rfl, rfl, rfl⟩ (by decide) (by rw [hname]; decide)
    · exact numbered_pieces (e := .marshaling { side := .host }) (numbers_marshaling .host)
        ⟨_, rfl, rfl, rfl⟩ (by decide) (by rw [hname]; decide)
  methods := by
    intro hname
    simp only [← method_eq]
    exact numbered_pieces (e := .encoder {}) numbers_encoder rfl (by decide) (by rw [hname]; decide)
  cases := by
    intro hname
    simp only [← case_eq]
    exact numbered_pieces (e := .decoder) numbers_decoder rfl (by decide) (by rw [hname]; decide)
  names := listsNames_pieces
  aliases := by
    intro hname p hp r d hcue halias
    obtain ⟨e, hbound, hkind⟩ := exists_emitter hname
    rw [OutputModule.pieces, hbound] at hp
    obtain ⟨-, -, -, -, e', hsame, htext⟩ := exists_of_mem_performance kind_after hp hcue
    rw [htext]
    exact answer_aliased (hsame ▸ hkind) halias
  restricted := by
    intro hname p hp c hcue name hcurrent
    obtain ⟨e, hbound, hkind⟩ := exists_emitter hname
    rw [OutputModule.pieces, hbound] at hp
    obtain ⟨q, hq, hc, hadmits, -⟩ := exists_of_mem_performance kind_after hp hcue
    exact restriction?_of_mem_script (unnamed_wire extraFeatures hkind) hq hc hadmits hcurrent

end

/-- In a complete run of the gfxstream build, for every valid schema, all extra features and all
layout settings, the modules of the wire protocol say the same about the same commands with the
same numbers: the ones of the supported features without restriction, aliases left out, in
traversal order. -/
theorem opcodes_agree (o : GeneratorOptions) (extraFeatures : List String) (st : LayoutSettings)
    {s : Schema} (hall : o.suppressExcept = none) (hs : s.validate = .ok ()) (d : Disk) :
    ∃ g report g' d', assemble o (gate extraFeatures) (modules st) bindings = .ok g ∧
      (g.run s : OnDisk _).run d = ((.ok report, g'), d') ∧
      g'.modules.map (·.spec) = modules st ∧
      ∀ m ∈ g'.modules,
        m.text = Piece.texts (m.pieces (gate extraFeatures) s bindings) ∧
          Lockstep (gate extraFeatures) (s.liveCommands (gate extraFeatures)) m.name
            (m.pieces (gate extraFeatures) s bindings) := by
  have hsound : Sound o.suppressExcept (modules st) bindings := by
    rw [hall]
    exact sound_modules st
  obtain ⟨report, g', d', hrun, hmodules⟩ := exists_run_assembled hsound hall hs d
  refine ⟨_, report, g', d', assemble_eq_ok_iff.mpr ⟨hsound, rfl⟩, hrun, ?_, ?_⟩
  · rw [hmodules, List.map_map]
    simp only [Function.comp_def, spec_performed_declare, List.map_id']
  · intro m hm
    rw [hmodules] at hm
    exact ⟨text_of_mem_performed hm, lockstep_pieces⟩

/-- A version without extras, generated into an empty file system. -/
theorem opcodes_agree_sample :
    ∃ g report g' d', assemble { outputDir := "out" } (gate []) (modules {}) bindings = .ok g ∧
      (g.run sampleSchema : OnDisk _).run ⟨[], []⟩ = ((.ok report, g'), d') ∧
      g'.modules.map (·.spec) = modules {} ∧
      ∀ m ∈ g'.modules,
        m.text = Piece.texts (m.pieces (gate []) sampleSchema bindings) ∧
          Lockstep (gate []) (sampleSchema.liveCommands (gate [])) m.name
            (m.pieces (gate []) sampleSchema bindings) :=
  opcodes_agree { outputDir := "out" } [] {} rfl rfl ⟨[], []⟩

end Gfxstream

end VulkanWire
