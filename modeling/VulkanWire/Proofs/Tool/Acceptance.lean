import VulkanWire.Proofs.Tool.Comparison

/-!
# What a generation accepts

With the module table of the build there is only one thing left about which a
configuration can be wrong once it has been resolved: the module to keep. If
that is in the table, a generation from a valid schema always gets to its
report, whatever features were added and whatever the disk.

## Main definitions

* `Config.Accepted` — the module to keep, if there is one, is in the table.

## Main results

* `exists_generator_of_not_accepted` — the one way in which setting up a generation
  fails.
* `exists_generateAll` — a generation that is accepted gets to its report.
-/

namespace VulkanWire

/-- The module to keep, if there is one, is in the table. -/
def Config.Accepted (c : Config) : Prop :=
  ∀ module, c.generation.suppress = some module →
    module ∈ (Gfxstream.modules c.layoutSettings).map (·.name)

variable {c : Config} {s : Schema} {commandLine : String} {d d' : Disk}

/-! ## Setting up -/

theorem suppressExcept_generatorOptions (h : c.generation.suppress ≠ some "") :
    (c.generatorOptions commandLine).suppressExcept = c.generation.suppress := by
  show (if c.generation.suppress.getD "" = "" then none else some (c.generation.suppress.getD "")) = _
  cases hs : c.generation.suppress with
  | none => rfl
  | some module =>
      rw [hs] at h
      have hne : module ≠ "" := fun hm => h (congrArg some hm)
      rw [Option.getD_some, if_neg hne]

/-- No module of the table has an empty name. -/
theorem suppress_ne_of_accepted (ha : c.Accepted) : c.generation.suppress ≠ some "" := by
  intro hempty
  have hlisted := ha "" hempty
  rw [Gfxstream.map_name_modules] at hlisted
  exact absurd hlisted (by decide)

/-- An accepted configuration passes all checks of assembly. -/
theorem isSound_of_accepted (ha : c.Accepted) : c.IsSound commandLine where
  distinct := (Gfxstream.sound_modules c.layoutSettings).distinct
  known := (Gfxstream.sound_modules c.layoutSettings).known
  kept := by
    rw [suppressExcept_generatorOptions (suppress_ne_of_accepted ha)]
    exact ha

/-- The one way in which setting up a generation fails. -/
theorem exists_generator_of_not_accepted (h : c.generation.suppress ≠ some "")
    (ha : ¬ c.Accepted) (commandLine : String) :
    ∃ module, c.generation.suppress = some module ∧
      c.generator commandLine = .error (.unknownSuppressedModule module
        ((Gfxstream.modules c.layoutSettings).map (·.name))) := by
  rw [Config.Accepted, Classical.not_forall] at ha
  obtain ⟨module, ha⟩ := ha
  obtain ⟨hkeep, hout⟩ := Classical.not_imp.mp ha
  refine ⟨module, hkeep, ?_⟩
  have hsound := Gfxstream.sound_modules c.layoutSettings
  have hnames := (firstRepeated?_eq_none_iff []
    ((Gfxstream.modules c.layoutSettings).map (·.name))).mpr ⟨hsound.distinct, by simp⟩
  have hbound := Generator.bindAll_eq_ok_iff.mpr ⟨hsound.known, rfl⟩
  rw [Config.generator, Generator.assemble_eq, hnames, hbound, suppressExcept_generatorOptions h,
    hkeep]
  exact if_neg hout

/-! ## Generating -/

/-- A generation that is accepted gets to its report. A dry one changes no disk and fails nowhere;
a real one is the delivery of all modules and build fragments. -/
theorem exists_generateAll (ha : c.Accepted) (hs : s.validate = .ok ()) (commandLine : String)
    (d : Disk) :
    ∃ report d', (generateAll c s commandLine : OnDisk _).run d = (.ok report, d') ∧
      (c.output.dryRun = true → report.isSuccess = true ∧ d' = d) ∧
      (c.output.dryRun = false → ∃ bound,
        Generator.Delivers (c.concluded s commandLine bound) d report d') := by
  have hsound : c.IsSound commandLine := isSound_of_accepted ha
  obtain ⟨bound, hrun⟩ := generateAll_run hsound hs
  by_cases hdry : c.output.dryRun = true
  · have hdeliver := Generator.deliver_dry (g := c.concluded s commandLine bound) hdry d
    refine ⟨_, d, hrun hdeliver, ?_, ?_⟩
    · exact fun _ => ⟨Generator.isSuccess_intended _ true, rfl⟩
    · intro hwet
      rw [hdry] at hwet
      cases hwet
  · have hwet : c.output.dryRun = false := by simpa using hdry
    obtain ⟨report, d', hdeliver, hdelivers⟩ :=
      Generator.exists_delivers (g := c.concluded s commandLine bound) hwet d
    exact ⟨report, d', hrun hdeliver, fun h => absurd h hdry, fun _ => ⟨bound, hdelivers⟩⟩

end VulkanWire
