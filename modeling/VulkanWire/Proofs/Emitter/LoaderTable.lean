import VulkanWire.Proofs.Emitter.Numbering
import VulkanWire.Proofs.Generator.Voices

/-!
# The dispatch table and its loader

The dispatch emitter declares function pointers as it is told of commands, so
they stand in the guards of its module; the routine that fills them in is
written when the file ends, from a record that the emitter keeps on its own.
Both are computed here from the schema, and they agree: under every feature, the
pointers declared are the pointers assigned.

## Main definitions

* `Schema.dispatched` — the commands of a dispatch table with their features.
* `Schema.loaderBlocks` — the blocks of its loader.
* `Dispatch.member`, `Dispatch.assignment` — what the header and the loader say of
  a command.

## Main results

* `Dispatch.loader_eq` — the text of a loader is that of its blocks.
* `Dispatch.monologue_script` — what a dispatch emitter says in a run.
* `Dispatch.declared_and_loaded` — the pointers of a module that it is bound to.
-/

namespace VulkanWire

/-! ## The commands of a dispatch table -/

/-- The name of a definition that is a command, aliases included. -/
def Element.commandName? : Element → Option String
  | .command d => some d.name
  | _ => none

/-- The names of the commands that a feature introduces, in traversal order. -/
def Feature.commandNames (f : Feature) : List String :=
  f.orderedElements.filterMap Element.commandName?

/-- The commands that a feature introduced, in the guard of the feature. -/
def FeatureCommands.block (f : FeatureCommands) : Block String := ⟨some f.feature, f.commands⟩

/-- The features that admit dispatch tables, with the commands that they introduce. -/
def dispatchedIn (gate : FeatureGate) (fs : List Feature) : List FeatureCommands :=
  (fs.filter fun f => (gate.evaluate f.name).admits .dispatch).map fun f =>
    ⟨f.name, f.commandNames⟩

namespace Schema

/-- The commands of the features that admit dispatch tables, in traversal order, each with its
feature. -/
def dispatched (s : Schema) (gate : FeatureGate) : List (Option String × String) :=
  (s.features.filter fun f => (gate.evaluate f.name).admits .dispatch).flatMap fun f =>
    f.commandNames.map (some f.name, ·)

/-- The same commands in blocks, one for each feature that has any. -/
def loaderBlocks (s : Schema) (gate : FeatureGate) : List (Block String) :=
  ((dispatchedIn gate s.features).map FeatureCommands.block).filter (·.items ≠ [])

end Schema

namespace Dispatch

/-! ## The text of a loader -/

def structStart : String := "struct VulkanDispatch \x7b\n"

/-- The member of the struct for a command. -/
def member (command : String) : String := "    PFN_" ++ command ++ " " ++ command ++ ";\n"

/-- The head of the loader, which the header declares and the implementation defines. -/
def loaderHead : String :=
  "void init_vulkan_dispatch_from_system_loader(DlOpenFunc dlOpenFunc, DlSymFunc dlSymFunc, VulkanDispatch* out)"

/-- The end of the struct and the declaration of the loader. -/
def structEnd : String := s!"\x7d;\n\n{loaderHead};\n\n"

/-- What stands in a loader before the assignments. -/
def loaderStart : String :=
  lines [
    s!"{loaderHead} \x7b",
    "    memset(out, 0x0, sizeof(VulkanDispatch));",
    "    void* lib = dlOpenFunc();",
    "    if (!lib) return;"]

/-- The statement of a loader that looks a command up and assigns its member. -/
def assignment (command : String) : String :=
  "    out->" ++ command ++ " = (PFN_" ++ command ++ ")dlSymFunc(lib, \"" ++ command ++ "\");\n"

def loaderEnd : String := "\x7d\n\n"

theorem renderLookup_eq : renderLookup = assignment := rfl

/-- A feature is looked up as a block if it has commands, and not at all if it has none. -/
theorem renderFeature_eq (f : FeatureCommands) :
    renderFeature f = if f.block.items ≠ [] then sourceText assignment f.block.lines else "" := by
  rw [renderFeature, ite_not]
  refine if_congr Iff.rfl rfl ?_
  simp [FeatureCommands.block, Block.lines, SourceLine.text, renderLookup_eq, String.append_assoc]

theorem join_renderFeature (fs : List FeatureCommands) :
    String.join (fs.map renderFeature) =
      sourceText assignment
        (((fs.map FeatureCommands.block).filter (·.items ≠ [])).flatMap Block.lines) := by
  induction fs with
  | nil => exact String.join_nil
  | cons f fs ih =>
      rw [List.map_cons, String.join_cons, ih, List.map_cons, renderFeature_eq, List.filter_cons]
      by_cases hnone : f.block.items = []
      · simp [hnone]
      · simp [hnone]

/-- A loader looks its commands up block by block. -/
theorem loader_eq (fs : List FeatureCommands) :
    loader fs = loaderStart ++ sourceText assignment
        (((fs.map FeatureCommands.block).filter (·.items ≠ [])).flatMap Block.lines) ++
      loaderEnd := by
  rw [← join_renderFeature]
  rfl

/-- The blocks of a loader hold the commands of the dispatch table. -/
theorem placed_loaderBlocks (s : Schema) (gate : FeatureGate) :
    (s.loaderBlocks gate).flatMap Block.placed = s.dispatched gate := by
  rw [Schema.loaderBlocks, Block.placed_filter_nonempty, dispatchedIn, List.map_map,
    List.flatMap_map]
  rfl

/-! ## What a dispatch emitter says -/

open StandardEmitter in
/-- The declaration of a command's pointer is no silence. -/
theorem inHeader_member_ne (c : String) : Emission.inHeader (member c) ≠ .silent := by
  have hindent : ("    PFN_" : String) ≠ "" := by decide
  exact inHeader_ne_silent (append_ne_empty (append_ne_empty (append_ne_empty
    (append_ne_empty hindent _) _) _) _)

/-- A command joins those of the last feature. -/
theorem addCommand_append (c : String) (before : List FeatureCommands) (f : FeatureCommands) :
    addCommand c (before ++ [f]) = before ++ [{ f with commands := f.commands ++ [c] }] := by
  induction before with
  | nil => rfl
  | cons f' before ih =>
      have hmore : before ++ [f] ≠ [] := by simp
      cases hrest : before ++ [f] with
      | nil => exact absurd hrest hmore
      | cons first rest =>
          rw [List.cons_append, List.cons_append, ← ih, hrest]
          rfl

section Saying

variable (f : Feature) (before : List FeatureCommands)

/-- Told of the commands that a feature requires, a dispatch emitter stays silent. -/
theorem remarks_require (t : Dispatch) (r : Registry) (cs : List String) :
    Remarks (StandardEmitter.dispatch t) (cs.map fun c => ⟨r, .requireCommand c⟩) []
      (.dispatch t) := by
  induction cs with
  | nil => exact .nil _
  | cons c cs ih => exact .silent rfl rfl ih

/-- Told of the definitions of a feature, a dispatch emitter declares a pointer for each command and
keeps its name. -/
theorem remarks_elements (name : String) (r : Registry) (es : List Element)
    (commands : List String) :
    Remarks (StandardEmitter.dispatch ⟨before ++ [⟨name, commands⟩]⟩) (elementCues r es)
      ((es.filterMap Element.commandName?).map fun c => .inHeader (member c))
      (.dispatch ⟨before ++ [⟨name, commands ++ es.filterMap Element.commandName?⟩]⟩) := by
  induction es generalizing r commands with
  | nil =>
      rw [List.filterMap_nil, List.append_nil]
      exact .nil _
  | cons e es ih =>
      cases e with
      | command d =>
          have hrest := ih (r.record (.command d)) (commands ++ [d.name])
          rw [List.append_assoc, List.singleton_append] at hrest
          refine .cons rfl (inHeader_member_ne d.name) ?_ hrest
          show StandardEmitter.dispatch ⟨addCommand d.name _⟩ = _
          rw [addCommand_append]
      | type d => exact .silent rfl rfl (ih _ commands)
      | struct d => exact .silent rfl rfl (ih _ commands)
      | group d => exact .silent rfl rfl (ih _ commands)
      | enum d => exact .silent rfl rfl (ih _ commands)

/-- So it does in a feature as a whole. -/
theorem remarks_cues (r : Registry) :
    Remarks (StandardEmitter.dispatch ⟨before⟩) (f.cues r)
      (f.commandNames.map fun c => .inHeader (member c))
      (.dispatch ⟨before ++ [⟨f.name, f.commandNames⟩]⟩) := by
  have hrequire := remarks_require ⟨before ++ [⟨f.name, []⟩]⟩ (r.beginFeature f.name f.kind)
    f.require
  have helements := remarks_elements before f.name (r.beginFeature f.name f.kind)
    f.orderedElements []
  have hleave : Remarks (StandardEmitter.dispatch ⟨before ++ [⟨f.name, f.commandNames⟩]⟩)
      [⟨(r.beginFeature f.name f.kind).recordAll f.orderedElements, .leaveFeature⟩] []
      (.dispatch ⟨before ++ [⟨f.name, f.commandNames⟩]⟩) := .silent rfl rfl (.nil _)
  have hall := hrequire.append (helements.append hleave)
  rw [List.append_nil, List.nil_append] at hall
  exact .silent rfl rfl hall

/-- Feature by feature, the pointers stand under the feature of their commands, and the emitter
keeps both. -/
theorem monologue_features (gate : FeatureGate) (fs : List Feature) (r : Registry) :
    monologue (featurePassages gate r fs) (StandardEmitter.dispatch ⟨before⟩) =
        (dispatchedIn gate fs).flatMap (fun f => f.block.placed.map fun p =>
          (p.1, .inHeader (member p.2))) ∧
      (featurePassages gate r fs).foldl (fun e p => p.advance e)
          (StandardEmitter.dispatch ⟨before⟩) =
        .dispatch ⟨before ++ dispatchedIn gate fs⟩ := by
  induction fs generalizing r before with
  | nil =>
      rw [dispatchedIn, List.filter_nil, List.map_nil, List.append_nil]
      exact ⟨rfl, rfl⟩
  | cons f fs ih =>
      by_cases hadmits : (gate.evaluate f.name).admits .dispatch = true
      · have hcons : dispatchedIn gate (f :: fs) =
            ⟨f.name, f.commandNames⟩ :: dispatchedIn gate fs := by
          rw [dispatchedIn, List.filter_cons_of_pos (by exact hadmits)]
          rfl
        obtain ⟨hsaid, hafter⟩ := monologue_featurePassages_cons fs hadmits
          (remarks_cues f before r)
        obtain ⟨hsaid', hafter'⟩ := ih (before ++ [⟨f.name, f.commandNames⟩]) (r.through gate f)
        rw [hsaid, hafter, hsaid', hafter', hcons, List.flatMap_cons, List.append_assoc]
        refine ⟨congrArg (· ++ _) ?_, rfl⟩
        simp only [FeatureCommands.block, Block.placed, List.map_map, Function.comp_def]
      · have hcons : dispatchedIn gate (f :: fs) = dispatchedIn gate fs := by
          rw [dispatchedIn, List.filter_cons_of_neg (by exact hadmits)]
          rfl
        obtain ⟨hsaid, hafter⟩ := monologue_featurePassages_cons_of_not fs r
          (e := StandardEmitter.dispatch ⟨before⟩) hadmits
        rw [hsaid, hafter, hcons]
        exact ih before (r.through gate f)

end Saying

/-! ## What it says in a run -/

section Run

variable {o : GeneratorOptions} {gate : FeatureGate} {specs : List ModuleSpec}
  {bindings : List (Binding StandardEmitter)} {s : Schema} {g : Generator StandardEmitter}

/-- In a run, a dispatch emitter opens the struct, declares a pointer for each command, and closes
the struct; at the end it writes the loader. -/
theorem monologue_script (s : Schema) (gate : FeatureGate) :
    monologue (s.script gate) (StandardEmitter.dispatch {}) =
      (none, .inHeader structStart) ::
        ((s.dispatched gate).map fun p => (p.1, .inHeader (member p.2))) ++
      [(none, ⟨structEnd, loaderStart ++
        sourceText assignment ((s.loaderBlocks gate).flatMap Block.lines) ++ loaderEnd⟩)] := by
  obtain ⟨hsaid, hafter⟩ := monologue_features [] gate s.features {}
  rw [List.nil_append] at hafter
  have hstart : Remarks (StandardEmitter.dispatch {}) [⟨{}, .start⟩] [.inHeader structStart]
      (.dispatch {}) := .cons rfl (by decide) rfl (.nil _)
  have hfinish : Remarks (StandardEmitter.dispatch ⟨dispatchedIn gate s.features⟩)
      [⟨s.finalRegistry gate, .finish⟩] [⟨structEnd, loader (dispatchedIn gate s.features)⟩]
      (.dispatch ⟨dispatchedIn gate s.features⟩) := by
    refine .cons rfl ?_ rfl (.nil _)
    intro h
    exact absurd (congrArg Emission.header h) (show structEnd ≠ "" by decide)
  have hcommands : (dispatchedIn gate s.features).flatMap (·.block.placed) = s.dispatched gate := by
    rw [dispatchedIn, List.flatMap_map]
    rfl
  rw [Schema.script, monologue_everyone hstart, monologue_append, hsaid, hafter,
    monologue_everyone hfinish, ← List.map_flatMap, hcommands, loader_eq]
  rfl

/-- A run comes to its end on every disk. Where a dispatch emitter is bound to a module with guards
that is not suppressed, whatever else is bound there, the module's files can be read under their
guards; what the emitter says there is the struct, with a pointer for each command of the features
that admit it, in traversal order and under the guard of its feature, and then the loader, outside
all guards. Read under its own guards, the loader assigns the same commands under the same features,
and none of its guards stands around nothing. -/
theorem declared_and_loaded (hg : Generator.assemble o gate specs bindings = .ok g)
    (hs : s.validate = .ok ()) (disk : Disk) :
    ∃ report g' disk', (g.run s : OnDisk _).run disk = ((.ok report, g'), disk') ∧
      g'.modules.map (·.spec) = specs ∧
      g'.modules.map (·.suppressed) =
        specs.map (fun spec => o.suppressExcept.any (spec.name ≠ ·)) ∧
      ∀ m ∈ g'.modules, m.usesGuards = true → m.suppressed = false →
        ∀ i, (Generator.boundTo m.name bindings)[i]? = some (.dispatch {}) →
          m.text = sourceEmission (m.source gate s bindings) ∧
          (∃ placed, readGuarded none (m.source gate s bindings) = some placed ∧
            voice i placed =
              (none, .inHeader structStart) ::
                ((s.dispatched gate).map fun p => (p.1, .inHeader (member p.2))) ++
              [(none, ⟨structEnd, loaderStart ++
                sourceText assignment ((s.loaderBlocks gate).flatMap Block.lines) ++
                loaderEnd⟩)]) ∧
          readGuarded none ((s.loaderBlocks gate).flatMap Block.lines) = some (s.dispatched gate) ∧
          ∀ b ∈ s.loaderBlocks gate, b.items ≠ [] := by
  obtain ⟨report, g', disk', hrun, -, hspecs, htext⟩ := Generator.exists_run_performed hg hs disk
  refine ⟨report, g', disk', hrun, hspecs, Generator.suppressed_run hg hs hrun, ?_⟩
  intro m hm hguards hopen i hbound
  obtain ⟨placed, hread, hvoice⟩ := m.voice_source gate s hbound
  refine ⟨?_, ⟨placed, hread, ?_⟩, ?_, ?_⟩
  · rw [htext m hm hopen, OutputModule.texts_pieces hguards]
  · rw [hvoice, monologue_script]
  · rw [readGuarded_blocks, placed_loaderBlocks]
  · intro b hb
    exact of_decide_eq_true (List.mem_filter.mp hb).2

/-- A version with a command, an extension with an alias of it, one without commands, and one that
only function tables are told of. -/
def poolCommands : Schema where
  features := [
    { name := "VK_VERSION_1_1",
      elements := [
        .command { name := "vkTrimCommandPool" }, .type { name := "VkDevice", kind := .handle }] },
    { name := "VK_KHR_maintenance1", kind := .deviceExtension,
      elements := [
        .command { name := "vkTrimCommandPoolKHR", aliasOf := some "vkTrimCommandPool" }] },
    { name := "VK_EXT_load_store_op_none", kind := .deviceExtension },
    { name := "VK_KHR_external_memory_fd", kind := .deviceExtension,
      elements := [.command { name := "vkGetMemoryFdKHR" }] }]

def loaderGate : FeatureGate where
  supported := ["VK_VERSION_1_1", "VK_KHR_maintenance1", "VK_EXT_load_store_op_none",
    "VK_KHR_external_memory_fd"]
  restrictions := ⟨[("VK_KHR_external_memory_fd", [.functionTable])]⟩

/-- The dispatch emitter shares its module with a function table. -/
def loaderBindings : List (Binding StandardEmitter) :=
  [⟨.functionTable {}, "vk_dispatch"⟩, ⟨.dispatch {}, "vk_dispatch"⟩]

example : poolCommands.loaderBlocks loaderGate = [
    ⟨some "VK_VERSION_1_1", ["vkTrimCommandPool"]⟩,
    ⟨some "VK_KHR_maintenance1", ["vkTrimCommandPoolKHR"]⟩] := by
  decide

/-- Generated into an empty file system, the module has the pointers of two commands, each under its
feature, in its struct and in its loader. -/
theorem declared_and_loaded_sample :
    ∃ report g' disk' m,
      ((Generator.assembled { outputDir := "out" } loaderGate [.ofBasename "vk_dispatch" .common]
          loaderBindings).run poolCommands : OnDisk _).run ⟨[], []⟩ = ((.ok report, g'), disk') ∧
      m ∈ g'.modules ∧ m.name = "vk_dispatch" ∧
      m.text = sourceEmission (m.source loaderGate poolCommands loaderBindings) ∧
      (∃ placed,
        readGuarded none (m.source loaderGate poolCommands loaderBindings) = some placed ∧
        voice 1 placed =
          [(none, .inHeader structStart),
            (some "VK_VERSION_1_1", .inHeader (member "vkTrimCommandPool")),
            (some "VK_KHR_maintenance1", .inHeader (member "vkTrimCommandPoolKHR")),
            (none, ⟨structEnd, loaderStart ++ sourceText assignment
              ((poolCommands.loaderBlocks loaderGate).flatMap Block.lines) ++ loaderEnd⟩)]) ∧
      readGuarded none ((poolCommands.loaderBlocks loaderGate).flatMap Block.lines) =
        some [(some "VK_VERSION_1_1", "vkTrimCommandPool"),
          (some "VK_KHR_maintenance1", "vkTrimCommandPoolKHR")] := by
  have hsound : Generator.Sound none [ModuleSpec.ofBasename "vk_dispatch" .common]
      loaderBindings := by
    refine ⟨by decide, by decide, ?_⟩
    intro name h
    cases h
  obtain ⟨report, g', disk', hrun, hspecs, hopen, hall⟩ := declared_and_loaded
    (o := { outputDir := "out" }) (Generator.assemble_eq_ok_iff.mpr ⟨hsound, rfl⟩)
    (show poolCommands.validate = .ok () by rfl) ⟨[], []⟩
  obtain ⟨m, hm, hspec⟩ := List.map_eq_singleton_iff.mp hspecs
  have hsuppressed : m.suppressed = false := by simpa [hm] using hopen
  have hname : m.name = "vk_dispatch" := by rw [OutputModule.name, hspec]; rfl
  have hguards : m.usesGuards = true := by rw [OutputModule.usesGuards, hspec]; rfl
  obtain ⟨htext, hheader, hloader, -⟩ := hall m (by simp [hm]) hguards hsuppressed 1
    (by rw [hname]; decide)
  have hcommands : poolCommands.dispatched loaderGate =
      [(some "VK_VERSION_1_1", "vkTrimCommandPool"),
        (some "VK_KHR_maintenance1", "vkTrimCommandPoolKHR")] := by decide
  rw [hcommands] at hheader hloader
  exact ⟨report, g', disk', m, hrun, by simp [hm], hname, htext, hheader, hloader⟩

end Run

end Dispatch

end VulkanWire
