import Mathlib.Data.List.Nodup
import VulkanWire.Proofs.Emitter.Routines
import VulkanWire.Proofs.Gfxstream.Opcodes
import VulkanWire.Proofs.Schema.Paring

/-!
# Commands that are introduced twice

Numbers are counted per command that is delivered and not looked up by its name.
Inside a feature a name stands for one definition, so no command is numbered
twice there; but another feature may introduce a command of the same name, and
then both of them get a number, a case in the decoder, and one in the table of
names. That is the only way a name comes to have two numbers.

## Main definitions

* `Schema.Unrepeated` — no command name is introduced by two of the features
  whose commands are numbered.
* `Gfxstream.OneNumber`, `Gfxstream.DistinctCases` — what is asked of the pieces of
  a module.

## Main results

* `Gfxstream.oneNumber_iff`, `Gfxstream.distinctCases_iff` — both hold where the names
  that are numbered are distinct.
* `Gfxstream.one_opcode_iff` — the modules of the build after a complete run.
-/

namespace VulkanWire

/-! ## The names of the commands that are numbered -/

theorem Element.name_of_liveCommand? {e : Element} {d : CommandDef} (h : e.liveCommand? = some d) :
    d.name = e.name := by
  cases e with
  | command c =>
      simp only [liveCommand?, Option.ite_none_left_eq_some, Option.some.injEq] at h
      rw [← h.2]
      rfl
  | type _ => cases h
  | struct _ => cases h
  | group _ => cases h
  | enum _ => cases h

/-- The traversal order leaves the commands of a feature in the order they are declared in. -/
theorem Feature.liveCommands_eq (f : Feature) :
    f.liveCommands = f.elements.filterMap Element.liveCommand? := by
  have hcommands : (f.elements.filter fun e => e.category = .command).filterMap
      Element.liveCommand? = f.elements.filterMap Element.liveCommand? := by
    rw [List.filterMap_filter]
    congr 1
    funext e
    cases e <;> rfl
  have hothers : ∀ c ≠ Category.command, (f.elements.filter fun e => e.category = c).filterMap
      Element.liveCommand? = [] := by
    intro c hc
    rw [List.filterMap_eq_nil_iff]
    intro e he
    have hcategory : e.category = c := by simpa using (List.mem_filter.mp he).2
    cases e with
    | command d => exact absurd hcategory.symm hc
    | _ => rfl
  simp [liveCommands, orderedElements, Category.all, hcommands, hothers]

/-- Inside a feature a name stands for one definition. -/
theorem Feature.nodup_names_liveCommands {f : Feature} (h : (f.elements.map (·.name)).Nodup) :
    (f.liveCommands.map (·.name)).Nodup := by
  rw [liveCommands_eq, List.Nodup, List.pairwise_map, List.pairwise_filterMap]
  rw [List.Nodup, List.pairwise_map] at h
  refine h.imp ?_
  intro e e' hne d hd d' hd'
  rwa [Element.name_of_liveCommand? hd, Element.name_of_liveCommand? hd']

/-- No command name is introduced by two unrestricted features, aliases left out. -/
def Schema.Unrepeated (s : Schema) (gate : FeatureGate) : Prop :=
  (s.features.filter fun f => gate.isUnrestricted f.name).Pairwise fun f f' =>
    ∀ d ∈ f.liveCommands, ∀ d' ∈ f'.liveCommands, d.name ≠ d'.name

/-- The names that a valid schema has numbered are distinct if no two features share one. -/
theorem Schema.nodup_names_liveCommands {s : Schema} (hs : s.validate = .ok ())
    (gate : FeatureGate) :
    ((s.liveCommands gate).map (·.name)).Nodup ↔ s.Unrepeated gate := by
  have hdistinct := ((validate_eq_ok_iff s).mp hs).2
  have hinside : ∀ f ∈ s.features.filter fun f => gate.isUnrestricted f.name,
      (f.liveCommands.map (·.name)).Nodup :=
    fun f hf => Feature.nodup_names_liveCommands (hdistinct f (List.mem_filter.mp hf).1)
  rw [liveCommands, List.map_flatMap, List.nodup_flatMap, and_iff_right hinside, Unrepeated]
  refine List.Pairwise.iff ?_
  intro f f'
  refine List.disjoint_left.trans ?_
  constructor
  · intro hapart d hd d' hd' hname
    exact hapart (List.mem_map_of_mem hd) (hname ▸ List.mem_map_of_mem hd')
  · intro hapart name hname hname'
    obtain ⟨d, hd, rfl⟩ := List.mem_map.mp hname
    obtain ⟨d', hd', heq⟩ := List.mem_map.mp hname'
    exact hapart d hd d' hd' heq.symm

/-! ## Pieces about commands -/

/-- A piece is said of a command. -/
def Piece.About (p : Piece) (d : CommandDef) : Prop :=
  ∃ r, p.cue? = some ⟨r, .element (.command d)⟩

/-- A piece defines the number of a command. -/
def Piece.Defines (p : Piece) (d : CommandDef) (opcode : Nat) : Prop :=
  p.About d ∧ p.text = StandardEmitter.definition opcode d

/-- A piece is the case of a command in the decoder: it stands under the label of the command's
name. -/
def Piece.Decodes (p : Piece) (d : CommandDef) : Prop :=
  p.About d ∧ ∃ statements, p.text =
    .inImplementation ("            case OP_" ++ d.name ++ ": \x7b\n" ++ statements)

theorem Piece.command?_eq_some_iff {p : Piece} {d : CommandDef} {text : Emission} :
    p.command? = some (d, text) ↔ p.About d ∧ p.text = text ∧ text ≠ .silent := by
  constructor
  · intro h
    unfold command? at h
    split at h
    · rename_i r c hcue
      by_cases hsilent : p.text = .silent
      · rw [if_pos hsilent] at h
        cases h
      · rw [if_neg hsilent] at h
        injection h with h
        injection h with hd htext
        exact ⟨⟨r, hd ▸ hcue⟩, htext, htext ▸ hsilent⟩
    · cases h
  · rintro ⟨⟨r, hcue⟩, rfl, hspeaks⟩
    simp only [command?, hcue, if_neg hspeaks]

namespace Gfxstream

open Generator StandardEmitter

/-- The pieces of a module define one number at most for a name. -/
def OneNumber (pieces : List Piece) : Prop :=
  ∀ p ∈ pieces, ∀ q ∈ pieces, ∀ c d m n, p.Defines c m → q.Defines d n → c.name = d.name → m = n

/-- No two pieces of a module are cases with the same label. -/
def DistinctCases (pieces : List Piece) : Prop :=
  pieces.Pairwise fun p q => ∀ c d, p.Decodes c → q.Decodes d → c.name ≠ d.name

section

variable {commands : List CommandDef} {pieces : List Piece}

/-- The number that is defined for a command is that of its place. -/
theorem exists_of_defines
    (h : Numbered (fun _ => definition) opcodeBase commands (pieces.filterMap Piece.command?))
    {p : Piece} (hp : p ∈ pieces) {d : CommandDef} {opcode : Nat} (hd : p.Defines d opcode) :
    ∃ i, commands[i]? = some d ∧ opcode = opcodeBase + i := by
  have hspeaks : definition opcode d ≠ .silent := (numbers_marshaling .guest).speaks {} opcode d
  have hcommand := Piece.command?_eq_some_iff.mpr ⟨hd.1, hd.2, hspeaks⟩
  obtain ⟨i, hi⟩ := List.mem_iff_getElem?.mp (List.mem_filterMap.mpr ⟨p, hp, hcommand⟩)
  obtain ⟨hplace, -, htext⟩ := h.getElem? hi
  exact ⟨i, hplace, definition_injective htext⟩

/-- At every place a number is defined for the command there. -/
theorem exists_defines
    (h : Numbered (fun _ => definition) opcodeBase commands (pieces.filterMap Piece.command?))
    {i : Nat} {d : CommandDef} (hi : commands[i]? = some d) :
    ∃ p ∈ pieces, p.Defines d (opcodeBase + i) := by
  obtain ⟨r, hr⟩ := h.2 i d hi
  obtain ⟨p, hp, hcommand⟩ := List.mem_filterMap.mp (List.mem_of_getElem? hr)
  obtain ⟨habout, htext, -⟩ := Piece.command?_eq_some_iff.mp hcommand
  exact ⟨p, hp, habout, htext⟩

/-- Marshaling defines one number for a name if the names that are numbered are distinct. -/
theorem oneNumber_iff
    (h : Numbered (fun _ => definition) opcodeBase commands (pieces.filterMap Piece.command?)) :
    OneNumber pieces ↔ (commands.map (·.name)).Nodup := by
  constructor
  · intro hone
    rw [List.nodup_iff_getElem?_ne_getElem?]
    intro i j hij hj hsame
    rw [List.length_map] at hj
    have hi : i < commands.length := Nat.lt_trans hij hj
    simp only [List.getElem?_map, List.getElem?_eq_getElem hi, List.getElem?_eq_getElem hj,
      Option.map_some, Option.some.injEq] at hsame
    obtain ⟨p, hp, hdefines⟩ := exists_defines h (List.getElem?_eq_getElem hi)
    obtain ⟨q, hq, hdefines'⟩ := exists_defines h (List.getElem?_eq_getElem hj)
    have hopcode := hone p hp q hq _ _ _ _ hdefines hdefines' hsame
    omega
  · intro hdistinct p hp q hq c d m n hc hd hname
    obtain ⟨i, hi, rfl⟩ := exists_of_defines h hp hc
    obtain ⟨j, hj, rfl⟩ := exists_of_defines h hq hd
    have hlt : i < (commands.map (·.name)).length := by
      rw [List.length_map]
      exact (List.getElem?_eq_some_iff.mp hi).1
    have hplace : i = j := by
      refine (List.getElem?_inj hlt hdistinct).mp ?_
      rw [List.getElem?_map, List.getElem?_map, hi, hj, Option.map_some, Option.map_some, hname]
    rw [hplace]

theorem command?_of_decodes {p : Piece} {d : CommandDef} (h : p.Decodes d) :
    p.command? = some (d, p.text) := by
  obtain ⟨habout, statements, htext⟩ := h
  have hlabel : "            case OP_" ≠ "" := by decide
  refine Piece.command?_eq_some_iff.mpr ⟨habout, rfl, ?_⟩
  rw [htext]
  exact inImplementation_ne_silent
    (append_ne_empty (append_ne_empty (append_ne_empty hlabel _) _) _)

theorem decodes_of_command?
    (h : Numbered (fun r _ d => receiving d (d.onWire r) d.answerType?) opcodeBase commands
      (pieces.filterMap Piece.command?))
    {p : Piece} (hp : p ∈ pieces) {d : CommandDef} {text : Emission}
    (hd : p.command? = some (d, text)) : p.Decodes d := by
  obtain ⟨i, hi⟩ := List.mem_iff_getElem?.mp (List.mem_filterMap.mpr ⟨p, hp, hd⟩)
  obtain ⟨habout, htext, -⟩ := Piece.command?_eq_some_iff.mp hd
  obtain ⟨-, r, hcase⟩ := h.getElem? hi
  rw [receiving, String.append_assoc, String.append_assoc] at hcase
  exact ⟨habout, _, htext.trans hcase⟩

/-- The decoder's labels are distinct if the names that are numbered are. -/
theorem distinctCases_iff
    (h : Numbered (fun r _ d => receiving d (d.onWire r) d.answerType?) opcodeBase commands
      (pieces.filterMap Piece.command?)) :
    DistinctCases pieces ↔ (commands.map (·.name)).Nodup := by
  rw [← h.map_fst, List.map_map, List.Nodup, List.pairwise_map, List.pairwise_filterMap,
    DistinctCases]
  refine List.Pairwise.iff_of_mem ?_
  intro p q hp hq
  constructor
  · rintro hapart ⟨c, text⟩ hc ⟨d, text'⟩ hd
    exact hapart c d (decodes_of_command? h hp hc) (decodes_of_command? h hq hd)
  · intro hapart c d hc hd
    exact hapart _ (command?_of_decodes hc) _ (command?_of_decodes hd)

end

/-! ## The modules of the build -/

/-- What the modules that number commands say about a name, in terms of whether a schema introduces
it once. -/
structure NumbersOnce (s : Schema) (gate : FeatureGate) (module : String) (pieces : List Piece) :
    Prop where
  /-- Either side's marshaling defines one number for each name. -/
  defines : module = "goldfish_vk_marshaling_guest" ∨ module = "goldfish_vk_marshaling" →
    (OneNumber pieces ↔ s.Unrepeated gate)
  /-- The decoder has one case for each name. -/
  cases : module = "VkDecoder" → (DistinctCases pieces ↔ s.Unrepeated gate)
  /-- The host's table of names has one case for each name. -/
  names : module = "goldfish_vk_marshaling" → ∃ placed, ListsNames pieces placed ∧
    ((placed.map Prod.snd).Nodup ↔ s.Unrepeated gate)

theorem Lockstep.numbersOnce {s : Schema} {gate : FeatureGate} {module : String}
    {pieces : List Piece} (h : Lockstep gate (s.liveCommands gate) module pieces)
    (hs : s.validate = .ok ()) : NumbersOnce s gate module pieces where
  defines := by
    intro hmodule
    rw [oneNumber_iff (h.defines hmodule), Schema.nodup_names_liveCommands hs]
  cases := by
    intro hmodule
    rw [distinctCases_iff (h.cases hmodule), Schema.nodup_names_liveCommands hs]
  names := by
    intro hmodule
    obtain ⟨placed, hnames, hlast⟩ := h.names hmodule
    refine ⟨placed, hlast, ?_⟩
    rw [hnames, Schema.nodup_names_liveCommands hs]

/-- Without suppression the build comes to its end for every valid schema, and its modules are left
with what their emitters answer. -/
theorem exists_complete_run {o : GeneratorOptions} (extraFeatures : List String)
    (st : LayoutSettings) {s : Schema} (hall : o.suppressExcept = none)
    (hs : s.validate = .ok ()) (d : Disk) :
    ∃ g report g' d', assemble o (gate extraFeatures) (modules st) bindings = .ok g ∧
      (g.run s : OnDisk _).run d = ((.ok report, g'), d') ∧
      g'.modules.map (·.spec) = modules st ∧
      ∀ m ∈ g'.modules, m.text = Piece.texts (m.pieces (gate extraFeatures) s bindings) := by
  have hsound : Sound o.suppressExcept (modules st) bindings := by
    rw [hall]
    exact sound_modules st
  obtain ⟨report, g', d', hrun, hmodules⟩ := exists_run_assembled hsound hall hs d
  refine ⟨_, report, g', d', assemble_eq_ok_iff.mpr ⟨hsound, rfl⟩, hrun, ?_, ?_⟩
  · rw [hmodules, List.map_map]
    simp only [Function.comp_def, spec_performed_declare, List.map_id']
  · intro m hm
    rw [hmodules] at hm
    exact text_of_mem_performed hm

/-- In a complete run of the gfxstream build, for every valid schema, all extra features and all
layout settings, a command name has one number on both sides, one case in the decoder and one in the
table of names, exactly if no two of the features whose commands are numbered introduce it. -/
theorem one_opcode_iff (o : GeneratorOptions) (extraFeatures : List String) (st : LayoutSettings)
    {s : Schema} (hall : o.suppressExcept = none) (hs : s.validate = .ok ()) (d : Disk) :
    ∃ g report g' d', assemble o (gate extraFeatures) (modules st) bindings = .ok g ∧
      (g.run s : OnDisk _).run d = ((.ok report, g'), d') ∧
      g'.modules.map (·.spec) = modules st ∧
      ∀ m ∈ g'.modules,
        m.text = Piece.texts (m.pieces (gate extraFeatures) s bindings) ∧
          NumbersOnce s (gate extraFeatures) m.name
            (m.pieces (gate extraFeatures) s bindings) := by
  obtain ⟨g, report, g', d', hg, hrun, hspecs, htexts⟩ :=
    exists_complete_run extraFeatures st hall hs d
  refine ⟨g, report, g', d', hg, hrun, hspecs, ?_⟩
  intro m hm
  exact ⟨htexts m hm, lockstep_pieces.numbersOnce hs⟩

/-- A version without extras, generated into an empty file system. -/
theorem one_opcode_iff_sample :
    ∃ g report g' d', assemble { outputDir := "out" } (gate []) (modules {}) bindings = .ok g ∧
      (g.run sampleSchema : OnDisk _).run ⟨[], []⟩ = ((.ok report, g'), d') ∧
      g'.modules.map (·.spec) = modules {} ∧
      ∀ m ∈ g'.modules,
        m.text = Piece.texts (m.pieces (gate []) sampleSchema bindings) ∧
          NumbersOnce sampleSchema (gate []) m.name (m.pieces (gate []) sampleSchema bindings) :=
  one_opcode_iff { outputDir := "out" } [] {} rfl rfl ⟨[], []⟩

/-! ## A name with two numbers -/

/-- Two versions that both introduce the same command. -/
def repeatedSchema : Schema where
  features := [
    { name := "VK_VERSION_1_0", elements := [.command { name := "vkDoIt" }] },
    { name := "VK_VERSION_1_1", elements := [.command { name := "vkDoIt" }] }]

theorem liveCommands_repeatedSchema :
    repeatedSchema.liveCommands (gate []) = [{ name := "vkDoIt" }, { name := "vkDoIt" }] := by
  have hsupported : ∀ f ∈ repeatedSchema.features, f.name ∈ supportedFeatures := by decide +kernel
  have hrestriction : ∀ f ∈ repeatedSchema.features, restrictions.find? f.name = none := by
    decide +kernel
  have hopen : ∀ f ∈ repeatedSchema.features, (gate []).isUnrestricted f.name = true := by
    intro f hf
    have hname : f.name ∈ (gate []).supported :=
      (mem_supported_gate [] f.name).mpr (.inr (hsupported f hf))
    have hnone : (gate []).restriction? f.name = none := hrestriction f hf
    rw [FeatureGate.isUnrestricted, FeatureGate.isSupported, hnone, List.contains_iff_mem.mpr hname]
    rfl
  rw [Schema.liveCommands, List.filter_eq_self.mpr hopen]
  rfl

theorem not_unrepeated_repeatedSchema : ¬ repeatedSchema.Unrepeated (gate []) := by
  rw [← Schema.nodup_names_liveCommands rfl, liveCommands_repeatedSchema]
  decide

/-- A text that defines a number is part of the header that it goes to. -/
theorem within_header {p : Piece} {pieces : List Piece} (hp : p ∈ pieces) {d : CommandDef}
    {opcode : Nat} (h : p.Defines d opcode) :
    Within (definition opcode d).header (Piece.texts pieces).header := by
  have hpart := (Emission.within_concat (List.mem_map_of_mem (f := Piece.text) hp)).1
  rwa [h.2] at hpart

/-- The build has a module of every name in its table. -/
theorem exists_module {st : LayoutSettings} {ms : List OutputModule}
    (hspecs : ms.map (·.spec) = modules st) (name : String) (h : name ∈ moduleNames) :
    ∃ m ∈ ms, m.name = name := by
  have hnames : ms.map (·.name) = moduleNames := by
    rw [← map_name_modules st, ← hspecs, List.map_map]
    rfl
  rw [← hnames] at h
  exact List.mem_map.mp h

/-- After a complete run over the two versions, the host's header defines two numbers for the one
name, and in the table of names as in the decoder two cases have the same label. -/
theorem vkDoIt_numbered_twice :
    ∃ g report g' d', repeatedSchema.validate = .ok () ∧
      assemble { outputDir := "out" } (gate []) (modules {}) bindings = .ok g ∧
      (g.run repeatedSchema : OnDisk _).run ⟨[], []⟩ = ((.ok report, g'), d') ∧
      (∃ m ∈ g'.modules, m.name = "goldfish_vk_marshaling" ∧
        Within "#define OP_vkDoIt 20000\n" m.header ∧
        Within "#define OP_vkDoIt 20001\n" m.header ∧
        ¬ OneNumber (m.pieces (gate []) repeatedSchema bindings) ∧
        ∃ placed, ListsNames (m.pieces (gate []) repeatedSchema bindings) placed ∧
          placed.map Prod.snd = ["vkDoIt", "vkDoIt"]) ∧
      ∃ m ∈ g'.modules, m.name = "VkDecoder" ∧
        ¬ DistinctCases (m.pieces (gate []) repeatedSchema bindings) := by
  obtain ⟨g, report, g', d', hg, hrun, hspecs, htexts⟩ :=
    exists_complete_run (o := { outputDir := "out" }) (s := repeatedSchema) [] {} rfl rfl ⟨[], []⟩
  obtain ⟨m, hm, hmarshaling⟩ := exists_module hspecs "goldfish_vk_marshaling" (by decide)
  obtain ⟨m', hm', hdecoder⟩ := exists_module hspecs "VkDecoder" (by decide)
  have hlockstep := @lockstep_pieces [] repeatedSchema m
  have honce := hlockstep.numbersOnce rfl
  have honce' := (@lockstep_pieces [] repeatedSchema m').numbersOnce rfl
  have hdefines := hlockstep.defines (.inr hmarshaling)
  rw [liveCommands_repeatedSchema] at hdefines
  obtain ⟨p, hp, hfirst⟩ := exists_defines hdefines (i := 0) rfl
  obtain ⟨q, hq, hsecond⟩ := exists_defines hdefines (i := 1) rfl
  have hheader : m.header = _ := congrArg Emission.header (htexts m hm)
  obtain ⟨placed, hnames, hlast⟩ := hlockstep.names hmarshaling
  rw [liveCommands_repeatedSchema] at hnames
  refine ⟨g, report, g', d', rfl, hg, hrun,
    ⟨m, hm, hmarshaling, ?_, ?_, ?_, placed, hlast, hnames⟩, m', hm', hdecoder, ?_⟩
  · rw [hheader, show "#define OP_vkDoIt 20000\n" =
      (definition (opcodeBase + 0) { name := "vkDoIt" }).header by decide]
    exact within_header hp hfirst
  · rw [hheader, show "#define OP_vkDoIt 20001\n" =
      (definition (opcodeBase + 1) { name := "vkDoIt" }).header by decide]
    exact within_header hq hsecond
  · exact fun h => not_unrepeated_repeatedSchema ((honce.defines (.inr hmarshaling)).mp h)
  · exact fun h => not_unrepeated_repeatedSchema ((honce'.cases hdecoder).mp h)

end Gfxstream

end VulkanWire
