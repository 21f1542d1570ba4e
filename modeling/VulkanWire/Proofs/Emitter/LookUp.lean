import VulkanWire.Proofs.Emitter.EntryPoints
import VulkanWire.Proofs.Emitter.Numbering
import VulkanWire.Proofs.Registry.Links

/-!
# The look-up routines of a run

After a run, the module of a function table holds two look-up routines. They are
known from the schema and the registry in the end: what they list, and where
every command leads. They lead to functions that are not defined elsewhere in
the text, so what matters is that each of these functions is defined with them;
it is, where names stand for one definition and the required commands lead to
commands that the function table is told of.

## Main results

* `nodup_names_functions` — where definitions have names of their own, no two
  functions of a function table have one name.
* `lookups_after_run` — the look-up routines after a run.
* `lookups_lead_to_functions` — every entry leads to exactly one function.
-/

namespace VulkanWire

open FunctionTable

/-! ## Functions with names of their own -/

section Names

variable {s : Schema} {gate : FeatureGate} {i : Introduction} {name : String}

/-- Entry points are named for the definition that they are of. -/
theorem eq_of_mem_entryPoints (h : name ∈ i.entryPoints.map (·.name)) :
    name = entryName i.definition.name ∨ name = checkedName i.definition.name := by
  rw [Introduction.entryPoints] at h
  cases hdefinition : i.definition with
  | command d =>
      rw [hdefinition] at h
      by_cases halias : d.aliasOf.isSome = true
      · simp [halias] at h
      · by_cases hneeds : needsCheck i.registry i.feature.kind d = true
        · simpa [halias, hneeds, entryFunction, checkedFunction, Element.name] using h
        · exact .inl (by simpa [halias, hneeds, entryFunction, Element.name] using h)
  | type d => simp [hdefinition] at h
  | struct d => simp [hdefinition] at h
  | group d => simp [hdefinition] at h
  | enum d => simp [hdefinition] at h

theorem nodup_names_entryPoints (i : Introduction) : (i.entryPoints.map (·.name)).Nodup := by
  rw [Introduction.entryPoints]
  cases i.definition with
  | command d =>
      have hne := entryName_ne_checkedName d.name d.name
      by_cases halias : d.aliasOf.isSome = true
      · simp [halias]
      · by_cases hneeds : needsCheck i.registry i.feature.kind d = true
        · simpa [halias, hneeds, entryFunction, checkedFunction] using hne
        · simp [halias, hneeds]
  | type d => simp
  | struct d => simp
  | group d => simp
  | enum d => simp

/-- Definitions with different names have different entry points. -/
theorem disjoint_entryPoints {j : Introduction} (h : i.definition.name ≠ j.definition.name) :
    (i.entryPoints.map (·.name)).Disjoint (j.entryPoints.map (·.name)) := by
  intro name hi hj
  rcases eq_of_mem_entryPoints hi with rfl | rfl
  · rcases eq_of_mem_entryPoints hj with hsame | hother
    · exact h (entryName_injective hsame)
    · exact entryName_ne_checkedName _ _ hother
  · rcases eq_of_mem_entryPoints hj with hother | hsame
    · exact entryName_ne_checkedName _ _ hother.symm
    · exact h (checkedName_injective hsame)

/-- The functions that a function table defines in a run, given the registry in the end. -/
def Schema.functions (s : Schema) (gate : FeatureGate) (r : Registry) : List FunctionDefinition :=
  reportFunction :: (s.entryPoints gate ++ s.lookupFunctions gate r)

/-- What entry points are called starts like no other function. -/
theorem head?_of_mem_entryPoints (h : name ∈ (s.entryPoints gate).map (·.name)) :
    name.toList.head? = some 'e' ∨ name.toList.head? = some 'd' := by
  rw [Schema.entryPoints, List.map_flatMap, List.mem_flatMap] at h
  obtain ⟨i, -, hname⟩ := h
  rcases eq_of_mem_entryPoints hname with rfl | rfl
  · exact .inl (head?_entryName _)
  · exact .inr (head?_checkedName _)

/-- No two of them have one name. -/
theorem nodup_names_functions (hunique : ((s.features.flatMap (·.elements)).map (·.name)).Nodup)
    (r : Registry) : ((s.functions gate r).map (·.name)).Nodup := by
  have hentries : ((s.entryPoints gate).map (·.name)).Nodup := by
    have hdistinct := List.pairwise_map.mp (nodup_names_introductions gate .functionTable hunique)
    rw [Schema.entryPoints, List.map_flatMap, List.nodup_flatMap]
    exact ⟨fun i _ => nodup_names_entryPoints i, hdistinct.imp disjoint_entryPoints⟩
  have hother : ∀ name ∈ (s.entryPoints gate).map (·.name), ∀ fixed : String,
      fixed.toList.head? ≠ some 'e' → fixed.toList.head? ≠ some 'd' → name ≠ fixed := by
    rintro name hname fixed he hd rfl
    rcases head?_of_mem_entryPoints hname with h | h
    · exact he h
    · exact hd h
  have hlookups : (s.lookupFunctions gate r).map (·.name) = [instanceLookup, deviceLookup] := rfl
  rw [Schema.functions, List.map_cons, List.map_append, hlookups, List.nodup_cons, List.mem_append,
    List.nodup_append]
  refine ⟨?_, hentries, by decide, ?_⟩
  · rintro (h | h)
    · exact hother _ h reportFunction.name (by decide) (by decide) rfl
    · revert h
      decide
  · intro name hname fixed hfixed
    rcases List.mem_cons.mp hfixed with rfl | hfixed
    · exact hother name hname _ (by decide) (by decide)
    · rw [List.mem_singleton.mp hfixed]
      exact hother name hname _ (by decide) (by decide)

end Names

/-! ## What the look-up routines list -/

section Listing

variable {s : Schema} {gate : FeatureGate} {lead : String → String} {r : Registry}

/-- No feature has two blocks. -/
theorem nodup_features_lookupBlocks (hs : s.validate = .ok ()) :
    ((s.lookupBlocks gate lead).map (·.feature)).Nodup := by
  have hdistinct := (s.validate_eq_ok_iff.mp hs).1
  rw [Schema.lookupBlocks, List.map_map]
  exact ((List.filter_sublist).map _).nodup hdistinct

/-- No block lists a command twice. -/
theorem nodup_commands_lookupBlocks {block : LookupBlock} (h : block ∈ s.lookupBlocks gate lead) :
    (block.entries.map (·.command)).Nodup := by
  obtain ⟨f, -, rfl⟩ := List.mem_map.mp h
  rw [List.map_map]
  simpa [Function.comp_def] using nodup_eraseDups f.require

/-- What a command leads to is listed for a feature that requires it. -/
theorem exists_of_mem_lookupBlocks {block : LookupBlock} {entry : LookupEntry}
    (hblock : block ∈ s.lookupBlocks gate lead) (hentry : entry ∈ block.entries) :
    ∃ f ∈ s.features, (gate.evaluate f.name).admits .functionTable = true ∧
      ∃ c ∈ f.require, entry = ⟨c, lead c⟩ := by
  obtain ⟨f, hf, rfl⟩ := List.mem_map.mp hblock
  obtain ⟨c, hc, rfl⟩ := List.mem_map.mp hentry
  obtain ⟨hmem, hadmits⟩ := List.mem_filter.mp hf
  rw [Bool.and_eq_true] at hadmits
  exact ⟨f, hmem, hadmits.1, c, List.mem_eraseDups.mp hc, rfl⟩

/-- The entry point of a command that a function table is told of is defined, unless the command is
an alias. -/
theorem entryName_mem_entryPoints {f : Feature} {d : CommandDef} (hf : f ∈ s.features)
    (hadmits : (gate.evaluate f.name).admits .functionTable = true) (hd : .command d ∈ f.elements)
    (hbare : d.aliasOf = none) : entryName d.name ∈ (s.entryPoints gate).map (·.name) := by
  obtain ⟨i, hi, hdefinition⟩ := exists_introduction hf hadmits hd
  have hentry : entryFunction d ∈ i.entryPoints := by
    rw [Introduction.entryPoints, hdefinition]
    by_cases hneeds : needsCheck i.registry i.feature.kind d = true <;> simp [hbare, hneeds]
  exact List.mem_map_of_mem (f := (·.name)) (List.mem_flatMap.mpr ⟨i, hi, hentry⟩)

/-- If where a command leads is defined, so is where it leads on a device. -/
theorem deviceEntryOf_mem_entryPoints {c : String}
    (h : r.entryOf c ∈ (s.entryPoints gate).map (·.name)) :
    s.deviceEntryOf gate r c ∈ (s.entryPoints gate).map (·.name) := by
  rw [Schema.deviceEntryOf]
  split
  · assumption
  · exact h

end Listing

/-! ## A pool and its commands -/

def trimCommand : CommandDef where
  name := "vkTrimCommandPool"
  params := [{ name := "device", typeName := "VkDevice" }]

def memoryCommand : CommandDef where
  name := "vkGetMemoryFdKHR"
  params := [{ name := "device", typeName := "VkDevice" }]

/-- A version with a command on devices, an extension with an alias of it, and an extension with a
command of its own. -/
def poolSchema : Schema where
  features := [
    { name := "VK_VERSION_1_1", require := ["vkTrimCommandPool", "vkTrimCommandPool"],
      elements := [.command trimCommand, .type { name := "VkDevice", kind := .handle }] },
    { name := "VK_KHR_maintenance1", kind := .deviceExtension, require := ["vkTrimCommandPoolKHR"],
      elements := [
        .command { name := "vkTrimCommandPoolKHR", aliasOf := some "vkTrimCommandPool" }] },
    { name := "VK_KHR_external_memory_fd", kind := .deviceExtension, require := ["vkGetMemoryFdKHR"],
      elements := [.command memoryCommand] }]

/-- All of it is supported, the last extension in function tables only. -/
def poolGate : FeatureGate where
  supported := ["VK_VERSION_1_1", "VK_KHR_maintenance1", "VK_KHR_external_memory_fd"]
  restrictions := ⟨[("VK_KHR_external_memory_fd", [.functionTable])]⟩

def poolSpecs : List ModuleSpec := [.ofBasename "func_table" .guestEncoder]

def poolBindings : List (Binding StandardEmitter) := [⟨.functionTable {}, "func_table"⟩]

theorem pool_sound : Generator.Sound none poolSpecs poolBindings where
  distinct := by decide
  known := by decide
  kept := by
    intro name h
    cases h

/-- On a device, the alias leads to the command itself, and the extension's own command to the entry
point with a check. -/
example : poolSchema.lookupBlocks poolGate
    (poolSchema.deviceEntryOf poolGate (poolSchema.finalRegistry poolGate)) = [
      ⟨"VK_VERSION_1_1", [⟨"vkTrimCommandPool", "entry_vkTrimCommandPool"⟩]⟩,
      ⟨"VK_KHR_maintenance1", [⟨"vkTrimCommandPoolKHR", "entry_vkTrimCommandPool"⟩]⟩,
      ⟨"VK_KHR_external_memory_fd", [⟨"vkGetMemoryFdKHR", "dynCheck_entry_vkGetMemoryFdKHR"⟩]⟩] := by
  decide

/-! ## After a run -/

section Run

variable {o : GeneratorOptions} {gate : FeatureGate} {specs : List ModuleSpec}
  {bindings : List (Binding StandardEmitter)} {s : Schema} {g : Generator StandardEmitter}
  {b : Binding StandardEmitter}

/-- A run comes to its end on every disk. What a function table then has in its module are function
definitions: the report, the entry points of the commands it was told of, and two look-up routines.
These list one block for each feature that admits function tables and requires a command, with one
entry for each command that it requires. An entry leads to the entry point of the command at the end
of the alias links; on a device, to the one with a check if it is defined, which it is for the
commands that a device extension introduced on a device-level handle. -/
theorem lookups_after_run (hg : Generator.assemble o gate specs bindings = .ok g)
    (hs : s.validate = .ok ()) (disk : Disk) (hb : b ∈ bindings)
    (hemitter : b.emitter = .functionTable {}) :
    ∃ report g' disk', (g.run s : OnDisk _).run disk = ((.ok report, g'), disk') ∧
      g'.HoldsAnswers s gate b ∧
      (Piece.texts (s.answers gate b.emitter)).implementation =
        reportFunction.text ++ "\n" ++ FunctionDefinition.texts (s.entryPoints gate ++
          [lookupFunction instanceLookup (s.lookupBlocks gate g'.registry.entryOf),
            lookupFunction deviceLookup
              (s.lookupBlocks gate (s.deviceEntryOf gate g'.registry))]) ∧
      (∀ lead, ((s.lookupBlocks gate lead).map (·.feature)).Nodup ∧
        ∀ block ∈ s.lookupBlocks gate lead, (block.entries.map (·.command)).Nodup) ∧
      ∀ t, checkedName t ∈ (s.entryPoints gate).map (·.name) ↔
        ∃ i ∈ s.introductions gate .functionTable, i.OnDevice t := by
  obtain ⟨report, g', disk', hrun, hregistry, hheld⟩ :=
    Generator.exists_run_answers StandardEmitter.kind_after hg hs disk
  refine ⟨report, g', disk', hrun, hheld b hb, ?_, ?_, fun t => checkedName_mem_iff⟩
  · rw [hemitter, hregistry, implementation_answers]
    rfl
  · exact fun lead => ⟨nodup_features_lookupBlocks hs, fun _ => nodup_commands_lookupBlocks⟩

/-- The function table of the small schema, generated into an empty file system. -/
theorem lookups_after_run_sample :
    ∃ report g' disk',
      ((Generator.assembled { outputDir := "out" } poolGate poolSpecs poolBindings).run poolSchema :
        OnDisk _).run ⟨[], []⟩ = ((.ok report, g'), disk') ∧
      g'.HoldsAnswers poolSchema poolGate ⟨.functionTable {}, "func_table"⟩ ∧
      (Piece.texts (poolSchema.answers poolGate
          (StandardEmitter.functionTable {}))).implementation =
        reportFunction.text ++ "\n" ++ FunctionDefinition.texts (poolSchema.entryPoints poolGate ++
          [lookupFunction instanceLookup
              (poolSchema.lookupBlocks poolGate g'.registry.entryOf),
            lookupFunction deviceLookup
              (poolSchema.lookupBlocks poolGate
                (poolSchema.deviceEntryOf poolGate g'.registry))]) ∧
      (∀ lead, ((poolSchema.lookupBlocks poolGate lead).map (·.feature)).Nodup ∧
        ∀ block ∈ poolSchema.lookupBlocks poolGate lead, (block.entries.map (·.command)).Nodup) ∧
      ∀ t, checkedName t ∈ (poolSchema.entryPoints poolGate).map (·.name) ↔
        ∃ i ∈ poolSchema.introductions poolGate .functionTable, i.OnDevice t :=
  lookups_after_run (Generator.assemble_eq_ok_iff.mpr ⟨pool_sound, rfl⟩) rfl ⟨[], []⟩
    (List.mem_singleton_self _) rfl

/-- Let definitions have names of their own, and let every command that is required of a function
table lead, along at most eight alias links, to a command that the function table is told of. Then
every entry of its look-up routines leads to a function that is defined exactly once in its text. -/
theorem lookups_lead_to_functions (hg : Generator.assemble o gate specs bindings = .ok g)
    (hs : s.validate = .ok ()) (disk : Disk) (hb : b ∈ bindings)
    (hemitter : b.emitter = .functionTable {})
    (hunique : ((s.features.flatMap (·.elements)).map (·.name)).Nodup)
    (hlinks : ∀ f ∈ s.features, (gate.evaluate f.name).admits .functionTable = true →
      ∀ c ∈ f.require, ∃ n ≤ 8, ∃ d : CommandDef, s.Reexports gate n c d.name ∧ d.aliasOf = none ∧
        ∃ f' ∈ s.features, (gate.evaluate f'.name).admits .functionTable = true ∧
          .command d ∈ f'.elements) :
    ∃ report g' disk', (g.run s : OnDisk _).run disk = ((.ok report, g'), disk') ∧
      g'.HoldsAnswers s gate b ∧
      (Piece.texts (s.answers gate b.emitter)).implementation =
        reportFunction.text ++ "\n" ++
          FunctionDefinition.texts (s.entryPoints gate ++ s.lookupFunctions gate g'.registry) ∧
      ∀ lead ∈ [g'.registry.entryOf, s.deviceEntryOf gate g'.registry],
        ∀ block ∈ s.lookupBlocks gate lead, ∀ entry ∈ block.entries,
          ((s.functions gate g'.registry).map (·.name)).count entry.entryPoint = 1 := by
  obtain ⟨report, g', disk', hrun, hregistry, hheld⟩ :=
    Generator.exists_run_answers StandardEmitter.kind_after hg hs disk
  refine ⟨report, g', disk', hrun, hheld b hb, ?_, ?_⟩
  · rw [hemitter, hregistry, implementation_answers]
  · intro lead hlead block hblock entry hentry
    obtain ⟨f, hf, hadmits, c, hc, rfl⟩ := exists_of_mem_lookupBlocks hblock hentry
    obtain ⟨n, hn, d, hpath, hbare, f', hf', hadmits', hd⟩ := hlinks f hf hadmits c hc
    have hend : (s.finalRegistry gate).aliases.find? d.name = none := by
      rw [← hbare]
      exact Registry.link_finalRegistry (e := .command d) hunique hf' (isSupported_of_admits hadmits')
        hd
    have hresolved : g'.registry.resolveAlias c = d.name := by
      rw [hregistry]
      exact Registry.followAlias_of_reexports hunique hend hpath hn
    have hdefined : g'.registry.entryOf c ∈ (s.entryPoints gate).map (·.name) := by
      rw [Registry.entryOf, hresolved]
      exact entryName_mem_entryPoints hf' hadmits' hd hbare
    have hlead' : lead c ∈ (s.entryPoints gate).map (·.name) := by
      rcases List.mem_cons.mp hlead with rfl | hlead
      · exact hdefined
      · rw [List.mem_singleton.mp hlead]
        exact deviceEntryOf_mem_entryPoints hdefined
    have hmem : lead c ∈ (s.functions gate g'.registry).map (·.name) := by
      rw [Schema.functions, List.map_cons, List.map_append]
      exact List.mem_cons_of_mem _ (List.mem_append_left _ hlead')
    exact List.count_eq_one_of_mem (nodup_names_functions hunique g'.registry) hmem

/-- In the small schema every required command leads, along at most one link, to a command that is
no alias. -/
theorem lookups_lead_to_functions_sample :
    ∃ report g' disk',
      ((Generator.assembled { outputDir := "out" } poolGate poolSpecs poolBindings).run poolSchema :
        OnDisk _).run ⟨[], []⟩ = ((.ok report, g'), disk') ∧
      g'.HoldsAnswers poolSchema poolGate ⟨.functionTable {}, "func_table"⟩ ∧
      (Piece.texts (poolSchema.answers poolGate
          (StandardEmitter.functionTable {}))).implementation =
        reportFunction.text ++ "\n" ++ FunctionDefinition.texts
          (poolSchema.entryPoints poolGate ++ poolSchema.lookupFunctions poolGate g'.registry) ∧
      ∀ lead ∈ [g'.registry.entryOf, poolSchema.deviceEntryOf poolGate g'.registry],
        ∀ block ∈ poolSchema.lookupBlocks poolGate lead, ∀ entry ∈ block.entries,
          ((poolSchema.functions poolGate g'.registry).map (·.name)).count entry.entryPoint = 1 := by
  refine lookups_lead_to_functions (Generator.assemble_eq_ok_iff.mpr ⟨pool_sound, rfl⟩) rfl ⟨[], []⟩
    (List.mem_singleton_self _) rfl (by decide) ?_
  have htrim : ∃ f ∈ poolSchema.features, (poolGate.evaluate f.name).admits .functionTable = true ∧
      .command trimCommand ∈ f.elements := by decide
  have hmemory : ∃ f ∈ poolSchema.features, (poolGate.evaluate f.name).admits .functionTable = true ∧
      .command memoryCommand ∈ f.elements := by decide
  have halias : poolSchema.Reexports poolGate 1 "vkTrimCommandPoolKHR" "vkTrimCommandPool" :=
    .link (e := .command { name := "vkTrimCommandPoolKHR", aliasOf := some "vkTrimCommandPool" })
      (f := poolSchema.features[1]) (by decide) (by decide) (by decide) rfl (.itself _)
  rintro f hf - c hc
  have hrequired : c = "vkTrimCommandPool" ∨ c = "vkTrimCommandPoolKHR" ∨ c = "vkGetMemoryFdKHR" := by
    revert c
    revert f
    decide
  rcases hrequired with rfl | rfl | rfl
  · exact ⟨0, by decide, trimCommand, .itself _, rfl, htrim⟩
  · exact ⟨1, by decide, trimCommand, halias, rfl, htrim⟩
  · exact ⟨0, by decide, memoryCommand, .itself _, rfl, hmemory⟩

end Run

end VulkanWire
