import VulkanWire.Proofs.Generator.Text

/-!
# What suppression isolates

Two runs of one table, one of which keeps a single module: emitters hear the
same cues in both, so the module kept ends up with the same files, and the
registry with the same definitions. The other modules stay empty and deliver
nothing, and on a disk no file changes but those of the module kept.

## Main results

* `modules_concludedOne` — every module at the end of a run that keeps one.
* `suppression_isolates` — the two runs compared.
-/

namespace VulkanWire

/-- The same options for a run that keeps one module, or all, and touches files, or none. -/
def GeneratorOptions.keeping (o : GeneratorOptions) (keep : Option String) (dryRun : Bool) :
    GeneratorOptions :=
  { o with suppressExcept := keep, dryRun := dryRun }

namespace Generator

variable {ε : Type} [Emitter ε] {o : GeneratorOptions} {gate : FeatureGate}
  {specs : List ModuleSpec} {bindings : List (Binding ε)} {s : Schema} {k : String}

/-! ## The module that is kept -/

/-- With distinct names, exactly one declaration has a declared name. -/
theorem exists_filter_eq_singleton (hdistinct : (specs.map (·.name)).Nodup)
    (hk : k ∈ specs.map (·.name)) :
    ∃ spec, spec.name = k ∧ specs.filter (·.name = k) = [spec] := by
  induction specs with
  | nil => cases hk
  | cons spec specs ih =>
      rw [List.map_cons, List.nodup_cons] at hdistinct
      by_cases hname : spec.name = k
      · have hothers : specs.filter (·.name = k) = [] := by
          rw [List.filter_eq_nil_iff]
          intro other hother hsame
          have hsame' : other.name = k := by simpa using hsame
          refine hdistinct.1 ?_
          rw [hname, ← hsame']
          exact List.mem_map_of_mem hother
        exact ⟨spec, hname, by rw [List.filter_cons_of_pos (by simpa using hname), hothers]⟩
      · have htail : k ∈ specs.map (·.name) := by
          rcases List.mem_cons.mp hk with hhead | htail
          · exact absurd hhead.symm hname
          · exact htail
        obtain ⟨kept, hkept, hfilter⟩ := ih hdistinct.2 htail
        exact ⟨kept, hkept, by rw [List.filter_cons_of_neg (by simpa using hname), hfilter]⟩

/-- A module at the end of a run that keeps a single one. -/
def alone (o : GeneratorOptions) (gate : FeatureGate) (bindings : List (Binding ε)) (s : Schema)
    (k : String) (spec : ModuleSpec) : OutputModule :=
  OutputModule.performed gate s bindings { declare o spec with suppressed := spec.name ≠ k }

/-- The module that is kept performs as if all were. -/
theorem alone_of_eq {spec : ModuleSpec} (h : spec.name = k) :
    alone o gate bindings s k spec = (declare o spec).performed gate s bindings := by
  have hsame : ({ declare o spec with suppressed := spec.name ≠ k } : OutputModule) =
      declare o spec := by
    simp [h, declare, OutputModule.ofSpec]
  rw [alone, hsame]

/-- A module that is not kept stands as it was declared, but for being suppressed. -/
theorem alone_of_ne {spec : ModuleSpec} (h : spec.name ≠ k) :
    alone o gate bindings s k spec = { declare o spec with suppressed := true } := by
  have hmark : ({ declare o spec with suppressed := spec.name ≠ k } : OutputModule) =
      { declare o spec with suppressed := true } := by
    simp [h]
  rw [alone, hmark, OutputModule.performed, OutputModule.take_of_rejects rfl]

section Concluded

variable (dryRun : Bool) (bound : List (BoundEmitter ε))

/-- A run that keeps all modules, before its delivery. -/
abbrev concludedAll (o : GeneratorOptions) (gate : FeatureGate) (specs : List ModuleSpec)
    (bindings : List (Binding ε)) (s : Schema) : Generator ε :=
  concluded (o.keeping none dryRun) gate specs bindings s bound

/-- A run that keeps one module, before its delivery. -/
abbrev concludedOne (o : GeneratorOptions) (gate : FeatureGate) (specs : List ModuleSpec)
    (bindings : List (Binding ε)) (s : Schema) (k : String) : Generator ε :=
  concluded (o.keeping (some k) dryRun) gate specs bindings s bound

theorem modules_concludedAll :
    (concludedAll dryRun bound o gate specs bindings s).modules =
      specs.map fun spec => (declare o spec).performed gate s bindings := by
  simp only [concluded, GeneratorOptions.keeping, suppress, List.map_map]
  rfl

theorem modules_concludedOne :
    (concludedOne dryRun bound o gate specs bindings s k).modules =
      specs.map (alone o gate bindings s k) := by
  simp only [concluded, GeneratorOptions.keeping, suppress, List.map_map]
  rfl

theorem name_alone (spec : ModuleSpec) : (alone o gate bindings s k spec).name = spec.name := by
  rw [alone, OutputModule.name_performed]
  rfl

theorem name_performed_declare (spec : ModuleSpec) :
    ((declare o spec).performed gate s bindings).name = spec.name := by
  rw [OutputModule.name_performed]
  rfl

/-- Only the module that is kept delivers anything. -/
theorem exists_of_mem_plan {a : Artifact}
    (ha : a ∈ (concludedOne dryRun bound o gate specs bindings s k).plan) :
    ∃ spec ∈ specs.filter (·.name = k), a ∈ ((declare o spec).performed gate s bindings).artifacts := by
  have hfragments : (concludedOne dryRun bound o gate specs bindings s k).plannedFragments = [] := rfl
  rw [plan, hfragments, List.append_nil, modules_concludedOne, List.mem_flatMap] at ha
  obtain ⟨m, hm, ha⟩ := ha
  obtain ⟨spec, hspec, rfl⟩ := List.mem_map.mp hm
  by_cases hname : spec.name = k
  · rw [alone_of_eq hname] at ha
    refine ⟨spec, List.mem_filter.mpr ⟨hspec, by simpa using hname⟩, ?_⟩
    unfold OutputModule.due at ha
    split at ha
    · cases ha
    · exact ha
  · rw [alone_of_ne hname] at ha
    cases ha

/-- The build entries are those of the module that is kept. -/
theorem buildFragments_concludedOne :
    (concludedOne dryRun bound o gate specs bindings s k).buildFragments =
      .ofEntries ((specs.filter (·.name = k)).filterMap fun spec =>
        ((declare o spec).performed gate s bindings).buildSource?) := by
  rw [buildFragments, modules_concludedOne, List.filterMap_map, List.filterMap_filter]
  congr 2
  funext spec
  by_cases hname : spec.name = k
  · simp [hname, alone_of_eq hname]
  · rw [Function.comp_apply, alone_of_ne hname]
    simp [hname, OutputModule.buildSource?]

end Concluded

/-! ## Two runs compared -/

/-- What a run that keeps only one module shares with a run of the same table that keeps all, and
what it leaves out; `results` are the files of that module as they are shown. -/
structure Isolates (k : String) (results : List Delivery) (all one : GenerationReport)
    (g g' : Generator ε) : Prop where
  /-- The module ends the same way in both runs. -/
  outcome : all.outcomes.filter (·.module = k) = [.delivered k results] ∧
    one.outcomes.filter (·.module = k) = [.delivered k results]
  /-- Both runs leave the same registry behind. -/
  registry : g'.registry = g.registry
  /-- Both runs report on the same modules. -/
  modules : one.outcomes.map (·.module) = all.outcomes.map (·.module)
  /-- Every other module is suppressed. -/
  suppressed : ∀ o ∈ one.outcomes, o.module ≠ k → o = .suppressed o.module
  /-- Every other module has gathered no text. -/
  silent : ∀ m ∈ g'.modules, m.name ≠ k → m.text = .silent
  /-- No build fragment is delivered. -/
  fragmentOutcomes : one.fragmentOutcomes = []
  /-- The build entries are at most one, and it is the module's own. -/
  fragments : (one.fragments.guest ++ one.fragments.host).length ≤ 1 ∧
    ∀ e ∈ one.fragments.guest ++ one.fragments.host, e.module = k

/-- The outcome that is reported of the module that is kept. -/
theorem filter_outcomes {f : ModuleSpec → OutputModule} (hname : ∀ spec, (f spec).name = spec.name)
    {spec : ModuleSpec} (hspec : specs.filter (·.name = k) = [spec]) :
    ((specs.map f).map (·.intended true)).filter (·.module = k) = [(f spec).intended true] := by
  rw [List.map_map, List.filter_map]
  have hsame : (specs.filter ((fun o : ModuleOutcome => decide (o.module = k)) ∘
      (fun m : OutputModule => m.intended true) ∘ f)) = specs.filter (·.name = k) := by
    apply List.filter_congr
    intro spec _
    simp only [Function.comp_apply, OutputModule.module_intended, hname]
  rw [hsame, hspec]
  rfl

/-- A single build entry is the only one of its role, and there is none of the other. -/
theorem entries_ofEntries_toList (entry : Option BuildEntry) :
    (BuildFragments.ofEntries entry.toList).guest ++ (BuildFragments.ofEntries entry.toList).host =
      entry.toList := by
  rw [BuildFragments.ofEntries_eq]
  cases entry with
  | none => rfl
  | some e => cases h : e.role <;> simp [h]

theorem module_of_buildSource? {m : OutputModule} {e : BuildEntry} (h : m.buildSource? = some e) :
    e.module = m.name := by
  unfold OutputModule.buildSource? at h
  split at h
  · cases h
  · injection h with h
    rw [← h]

/-- What is intended of the two runs differs in nothing but what suppression leaves out. -/
theorem isolates_intended {spec : ModuleSpec} (hspec : specs.filter (·.name = k) = [spec])
    (hname : spec.name = k) (bound bound' : List (BoundEmitter ε)) :
    Isolates k
      (((declare o spec).performed gate s bindings).artifacts.map Artifact.preview)
      ((concludedAll true bound o gate specs bindings s).intended true)
      ((concludedOne true bound' o gate specs bindings s k).intended true)
      (concludedAll true bound o gate specs bindings s).delivered
      (concludedOne true bound' o gate specs bindings s k).delivered where
  outcome := by
    have hkept : ((declare o spec).performed gate s bindings).intended true =
        .delivered k (((declare o spec).performed gate s bindings).artifacts.map
          Artifact.preview) := by
      rw [OutputModule.intended_of_due (by simp; rfl) (by simp; rfl), name_performed_declare, hname]
      rfl
    constructor
    · rw [intended, modules_concludedAll, filter_outcomes name_performed_declare hspec, hkept]
    · rw [intended, modules_concludedOne, filter_outcomes name_alone hspec, alone_of_eq hname, hkept]
  registry := rfl
  modules := by
    simp only [intended, modules_concludedAll, modules_concludedOne, List.map_map,
      Function.comp_def, OutputModule.module_intended, name_alone, name_performed_declare]
  suppressed := by
    intro outcome houtcome hne
    rw [intended, modules_concludedOne, List.map_map] at houtcome
    obtain ⟨other, -, rfl⟩ := List.mem_map.mp houtcome
    rw [Function.comp_apply, OutputModule.module_intended, name_alone] at hne
    rw [Function.comp_apply, alone_of_ne hne]
    rfl
  silent := by
    intro m hm hne
    rw [delivered, modules_concludedOne, List.map_map] at hm
    obtain ⟨other, -, rfl⟩ := List.mem_map.mp hm
    rw [Function.comp_apply, OutputModule.name_spent, name_alone] at hne
    rw [Function.comp_apply, OutputModule.text_spent, alone_of_ne hne]
    rfl
  fragmentOutcomes := rfl
  fragments := by
    rw [intended, buildFragments_concludedOne, hspec]
    have hsingle : [spec].filterMap
        (fun spec => ((declare o spec).performed gate s bindings).buildSource?) =
        ((declare o spec).performed gate s bindings).buildSource?.toList := by
      cases h : ((declare o spec).performed gate s bindings).buildSource? <;> simp [h]
    rw [hsingle, entries_ofEntries_toList]
    constructor
    · cases ((declare o spec).performed gate s bindings).buildSource? <;> simp
    · intro e he
      rw [module_of_buildSource? (Option.mem_toList.mp he), name_performed_declare, hname]

/-- Suppression isolates: for every table and every module name of it, the dry run that keeps only
that module ends it as the dry run of all does, and a real run that keeps only that module changes
no file but those of the module. -/
theorem suppression_isolates {g : Generator ε}
    (hg : assemble (o.keeping none true) gate specs bindings = .ok g)
    (hk : k ∈ specs.map (·.name)) (hs : s.validate = .ok ()) :
    ∃ results,
      (∃ all one g₁ g₂ gk, (∀ d, (g.run s : OnDisk _).run d = ((.ok all, g₁), d)) ∧
        assemble (o.keeping (some k) true) gate specs bindings = .ok gk ∧
        (∀ d, (gk.run s : OnDisk _).run d = ((.ok one, g₂), d)) ∧
        Isolates k results all one g₁ g₂) ∧
      ∃ gr, assemble (o.keeping (some k) false) gate specs bindings = .ok gr ∧
        ∀ d, ∃ report g₃ d', (gr.run s : OnDisk _).run d = ((.ok report, g₃), d') ∧
          ∀ place, d'.fileAt? place ≠ d.fileAt? place →
            ∃ r ∈ results, d'.stat r.path = .ok place := by
  obtain ⟨hsound, rfl⟩ := assemble_eq_ok_iff.mp hg
  have hone : ∀ dryRun, Sound (o.keeping (some k) dryRun).suppressExcept specs bindings := by
    intro dryRun
    refine ⟨hsound.distinct, hsound.known, ?_⟩
    intro name hname
    injection hname with hname
    exact hname ▸ hk
  obtain ⟨spec, hname, hspec⟩ := exists_filter_eq_singleton hsound.distinct hk
  refine ⟨((declare o spec).performed gate s bindings).artifacts.map Artifact.preview, ?_, ?_⟩
  · -- Both runs end with what their emitters say, whichever modules take it.
    obtain ⟨bound, hrun⟩ := run_assembled hsound hs
    obtain ⟨bound', hrun'⟩ := run_assembled (hone true) hs
    exact ⟨_, _, _, _, _, fun d => hrun (deliver_dry rfl d),
      assemble_eq_ok_iff.mpr ⟨hone true, rfl⟩, fun d => hrun' (deliver_dry rfl d),
      isolates_intended hspec hname bound bound'⟩
  · obtain ⟨bound, hrun⟩ := run_assembled (hone false) hs
    refine ⟨_, assemble_eq_ok_iff.mpr ⟨hone false, rfl⟩, ?_⟩
    intro d
    obtain ⟨report, d', landed, hdeliver, htrail, hlanded, -⟩ :=
      deliver_real (g := concludedOne false bound o gate specs bindings s k) rfl d
    refine ⟨report, _, d', hrun hdeliver, ?_⟩
    intro place hchanged
    obtain ⟨a, ha, hstat⟩ := htrail.exists_of_changed hchanged
    obtain ⟨kept, hkept, ha⟩ := exists_of_mem_plan false bound (hlanded ha)
    rw [hspec, List.mem_singleton] at hkept
    subst hkept
    exact ⟨a.preview, List.mem_map_of_mem ha, hstat⟩

/-- The small table, of which the guarded module is kept. -/
theorem suppression_isolates_sample :
    ∃ results,
      (∃ all one g₁ g₂ gk,
        (∀ d, ((assembled (GeneratorOptions.keeping { outputDir := "out" } none true) sampleGate
          sampleSpecs sampleBindings).run sampleSchema : OnDisk _).run d = ((.ok all, g₁), d)) ∧
        assemble (GeneratorOptions.keeping { outputDir := "out" } (some "alpha") true) sampleGate
          sampleSpecs sampleBindings = .ok gk ∧
        (∀ d, (gk.run sampleSchema : OnDisk _).run d = ((.ok one, g₂), d)) ∧
        Isolates "alpha" results all one g₁ g₂) ∧
      ∃ gr, assemble (GeneratorOptions.keeping { outputDir := "out" } (some "alpha") false) sampleGate
          sampleSpecs sampleBindings = .ok gr ∧
        ∀ d, ∃ report g₃ d', (gr.run sampleSchema : OnDisk _).run d = ((.ok report, g₃), d') ∧
          ∀ place, d'.fileAt? place ≠ d.fileAt? place →
            ∃ r ∈ results, d'.stat r.path = .ok place :=
  suppression_isolates (assemble_eq_ok_iff.mpr ⟨sample_sound, rfl⟩) (by decide) rfl

end Generator

end VulkanWire
