import VulkanWire.Proofs.Generator.Course
import VulkanWire.Proofs.Gfxstream.Layout
import VulkanWire.Proofs.Tool.Obstacles

/-!
# Comparing after generating

A generation that fails nowhere leaves every artifact on disk as it would be
generated again, so a comparison right after it finds nothing stale and nothing
missing. Artifacts may land on one file, wherever the directories of a
configuration lie; where they do, they hold the same text, so it does not
matter which of them is written last.

## Main results

* `generateAll_run` — a generation is a run of the assembled generator.
* `up_to_date_after_generation` — a comparison after a successful generation.
-/

namespace VulkanWire

variable {c : Config} {s : Schema} {commandLine : String} {d d' : Disk}

/-! ## Generations -/

/-- The generator of a configuration before its delivery. -/
abbrev Config.concluded (c : Config) (s : Schema) (commandLine : String)
    (bound : List (BoundEmitter StandardEmitter)) : Generator StandardEmitter :=
  Generator.concluded (c.generatorOptions commandLine) (Gfxstream.gate c.generation.extraFeatures)
    (Gfxstream.modules c.layoutSettings) Gfxstream.bindings s bound

/-- The declarations of a configuration pass all checks of assembly. -/
abbrev Config.IsSound (c : Config) (commandLine : String) : Prop :=
  Generator.Sound (c.generatorOptions commandLine).suppressExcept
    (Gfxstream.modules c.layoutSettings) Gfxstream.bindings

/-- Only sound declarations and valid schemas generate anything. -/
theorem sound_of_generateAll {report : GenerationReport}
    (h : (generateAll c s commandLine : OnDisk _).run d = (.ok report, d')) :
    c.IsSound commandLine ∧ s.validate = .ok () := by
  cases hg : c.generator commandLine with
  | error fault =>
      rw [generateAll, hg] at h
      cases h
  | ok g =>
      refine ⟨(Generator.assemble_eq_ok_iff.mp hg).1, ?_⟩
      cases hs : s.validate with
      | ok _ => rfl
      | error fault =>
          rw [generateAll, hg] at h
          simp only [Generator.run_invalid g hs] at h
          cases h

/-- A generation runs the assembled generator up to its delivery and then delivers. -/
theorem generateAll_run (hsound : c.IsSound commandLine) (hs : s.validate = .ok ()) :
    ∃ bound, ∀ {d d' : Disk} {report : GenerationReport} {g : Generator StandardEmitter},
      (Generator.deliver (c.concluded s commandLine bound) : OnDisk _).run d = ((report, g), d') →
      (generateAll c s commandLine : OnDisk _).run d = (.ok report, d') := by
  obtain ⟨bound, hrun⟩ := Generator.run_assembled hsound hs
  refine ⟨bound, ?_⟩
  intro d d' report g hdeliver
  have hg : c.generator commandLine = .ok (Generator.assembled (c.generatorOptions commandLine)
      (Gfxstream.gate c.generation.extraFeatures) (Gfxstream.modules c.layoutSettings)
      Gfxstream.bindings) :=
    Generator.assemble_eq_ok_iff.mpr ⟨hsound, rfl⟩
  rw [generateAll, hg]
  exact OnDisk.run_bind (hrun hdeliver)

/-- What is planned does not depend on whether files are touched. -/
theorem plan_dry (bound bound' : List (BoundEmitter StandardEmitter)) :
    (c.dry.concluded s commandLine bound').plan = (c.concluded s commandLine bound).plan := rfl

/-- A dry generation shows the plan. -/
theorem generateAll_dry (hsound : c.IsSound commandLine) (hs : s.validate = .ok ()) :
    ∃ bound, ∀ d, (generateAll c.dry s commandLine : OnDisk _).run d =
      (.ok ((c.dry.concluded s commandLine bound).intended true), d) := by
  obtain ⟨bound, hrun⟩ := generateAll_run (c := c.dry) hsound hs
  exact ⟨bound, fun d => hrun (Generator.deliver_dry rfl d)⟩

/-- A real generation that fails nowhere writes the whole plan in its order. -/
theorem generateAll_real {report : GenerationReport} (hwet : c.output.dryRun = false)
    (h : (generateAll c s commandLine : OnDisk _).run d = (.ok report, d'))
    (hok : report.isSuccess = true) :
    ∃ bound, report = (c.concluded s commandLine bound).intended false ∧
      Trail d (c.concluded s commandLine bound).plan d' := by
  obtain ⟨hsound, hs⟩ := sound_of_generateAll h
  obtain ⟨bound, hrun⟩ := generateAll_run hsound hs
  obtain ⟨report', d'', landed, hdeliver, htrail, -, hall⟩ :=
    Generator.deliver_real (g := c.concluded s commandLine bound) hwet d
  rw [hrun hdeliver] at h
  obtain ⟨hreport, rfl⟩ := Prod.mk.inj h
  injection hreport with hreport
  subst hreport
  obtain ⟨hintended, rfl⟩ := hall hok
  exact ⟨bound, hintended, htrail⟩

/-! ## Comparisons -/

/-- Where every artifact can be read back, nothing is stale and nothing is missing. -/
theorem compareDeliveries_run {as : List Artifact}
    (h : ∀ a ∈ as, d.readText a.path = .ok a.content) :
    (compareDeliveries (as.map Artifact.preview) : OnDisk _).run d =
      (.ok { checked := as.length, stale := [], missing := [] }, d) := by
  have htext : ∀ a ∈ as,
      d.bytesAt? a.path = some a.content.toUTF8 ∧ d.obstacle? a.path = none := by
    intro a ha
    have hreads := Disk.reads_readText d a.path
    rw [h a ha] at hreads
    cases hreads with
    | text _ bytes clear => exact ⟨bytes, clear⟩
  have hclear : as.findSome? (fun a => d.obstacle? a.path) = none :=
    List.findSome?_eq_none_iff.mpr fun a ha => (htext a ha).2
  have huptodate := (d.compared_isUpToDate as).mpr fun a ha => (htext a ha).1
  rw [compareDeliveries_preview, Disk.comparison, hclear]
  rw [Comparison.isUpToDate, Bool.and_eq_true, List.isEmpty_iff, List.isEmpty_iff] at huptodate
  show (Except.ok (⟨as.length, (d.compared as).stale, (d.compared as).missing⟩ : Comparison), d) = _
  rw [huptodate.1, huptodate.2]

/-- Artifacts of a plan that land on the same file have the same content. -/
theorem content_eq_of_mem_plan {bound : List (BoundEmitter StandardEmitter)} {a b : Artifact}
    (ha : a ∈ (c.concluded s commandLine bound).plan)
    (hb : b ∈ (c.concluded s commandLine bound).plan) {place : Place}
    (hpa : d.stat a.path = .ok place) (hpb : d.stat b.path = .ok place) : a.content = b.content :=
  (Gfxstream.consistent_modules c.layoutSettings).content_eq_of_stat ha hb hpa hpb

/-- For every configuration that touches files, every schema and every disk: a comparison right
after a generation that fails nowhere finds every artifact up to date. In every configuration,
artifacts that land on the same file of whatever disk have the same content. -/
theorem up_to_date_after_generation (c : Config) (s : Schema) (commandLine : String) :
    (∀ (d d' : Disk) (report : GenerationReport), c.output.dryRun = false →
      (generateAll c s commandLine : OnDisk _).run d = (.ok report, d') → report.isSuccess = true →
      (compareAll c s commandLine : OnDisk _).run d' =
        (.ok { checked := report.deliveries.length, stale := [], missing := [] }, d')) ∧
    (∀ (d : Disk) (shown : GenerationReport),
      (generateAll c.dry s commandLine : OnDisk _).run d = (.ok shown, d) →
      ∀ x ∈ shown.deliveries, ∀ y ∈ shown.deliveries, ∀ (disk : Disk) (place : Place),
        disk.stat x.path = .ok place → disk.stat y.path = .ok place → x.content? = y.content?) := by
  constructor
  · intro d d' report hwet h hok
    obtain ⟨hsound, hs⟩ := sound_of_generateAll h
    obtain ⟨bound, rfl, htrail⟩ := generateAll_real hwet h hok
    obtain ⟨bound', hdry⟩ := generateAll_dry hsound hs
    have hread : ∀ a ∈ (c.concluded s commandLine bound).plan,
        d'.readText a.path = .ok a.content := by
      refine htrail.readText ?_
      intro a ha b hb place hpa hpb
      exact content_eq_of_mem_plan ha hb hpa hpb
    -- A comparison shows a dry generation of its own, and that shows the plan that was written.
    have hshown : ((c.dry.concluded s commandLine bound').intended true).deliveries =
        (c.concluded s commandLine bound).plan.map Artifact.preview := by
      rw [Generator.deliveries_intended, plan_dry bound bound']
      rfl
    have hcompare := compareDeliveries_run hread
    rw [← hshown] at hcompare
    rw [compareAll, OnDisk.run_bind (hdry d'), Generator.deliveries_intended, List.length_map]
    exact OnDisk.run_bind hcompare
  · intro d shown h x hx y hy disk place hpx hpy
    obtain ⟨hsound, hs⟩ := sound_of_generateAll h
    obtain ⟨bound, hdry⟩ := generateAll_dry (c := c) hsound hs
    rw [hdry d] at h
    obtain ⟨hshown, -⟩ := Prod.mk.inj h
    injection hshown with hshown
    rw [← hshown, Generator.deliveries_intended] at hx hy
    obtain ⟨a, ha, rfl⟩ := List.mem_map.mp hx
    obtain ⟨b, hb, rfl⟩ := List.mem_map.mp hy
    exact congrArg some (content_eq_of_mem_plan ha hb hpx hpy)

/-- A configuration with one directory for the guest and the host. -/
def sharedConfig : Config where
  output := { dir := "/", guestEncoderDir := some "/" }

/-- A version with a handle, a struct and a command on them, and one with an alias. -/
def idleSchema : Schema where
  features := [
    { name := "VK_VERSION_1_0",
      elements := [
        .type { name := "VkDevice", kind := .handle },
        .struct { name := "VkIdleInfo", members := [{ name := "device", typeName := "VkDevice" }] },
        .command {
          name := "vkDeviceWaitIdle", params := [{ name := "device", typeName := "VkDevice" }] }] },
    { name := "VK_VERSION_1_1",
      elements := [
        .command { name := "vkTrimCommandPool" },
        .command { name := "vkTrimCommandPoolKHR", aliasOf := some "vkTrimCommandPool" }] }]

/-- All modules generated into one directory of an empty file system and compared, and all of them
shown, among them two that land on the same files. -/
theorem up_to_date_after_generation_sample :
    (∃ report d',
      (generateAll sharedConfig idleSchema "generate" : OnDisk _).run ⟨[], []⟩ =
        (.ok report, d') ∧
      report.written = Gfxstream.moduleNames ∧
      (compareAll sharedConfig idleSchema "generate" : OnDisk _).run d' =
        (.ok { checked := report.deliveries.length, stale := [], missing := [] }, d')) ∧
    ∃ shown,
      (generateAll sharedConfig.dry idleSchema "generate" : OnDisk _).run ⟨[], []⟩ =
        (.ok shown, ⟨[], []⟩) ∧
      ∀ x ∈ shown.deliveries, ∀ y ∈ shown.deliveries, ∀ (disk : Disk) (place : Place),
        disk.stat x.path = .ok place → disk.stat y.path = .ok place → x.content? = y.content? := by
  have hsound : sharedConfig.IsSound "generate" := by
    refine ⟨by decide, by decide, ?_⟩
    intro name hname
    cases hname
  constructor
  · have hsuccess : ((generateAll sharedConfig idleSchema "generate" : OnDisk _).run
        ⟨[], []⟩).1.toOption.any
          (fun report => report.isSuccess ∧ report.written = Gfxstream.moduleNames) = true := by
      decide +kernel
    cases hrun : (generateAll sharedConfig idleSchema "generate" : OnDisk _).run ⟨[], []⟩ with
    | mk result d' =>
        rw [hrun] at hsuccess
        cases result with
        | error fault => cases hsuccess
        | ok report =>
            obtain ⟨hok, hwritten⟩ := of_decide_eq_true hsuccess
            exact ⟨report, d', rfl, hwritten,
              (up_to_date_after_generation sharedConfig idleSchema "generate").1 _ _ report rfl hrun
                hok⟩
  · obtain ⟨bound, hdry⟩ := generateAll_dry (s := idleSchema) hsound rfl
    exact ⟨_, hdry ⟨[], []⟩,
      (up_to_date_after_generation sharedConfig idleSchema "generate").2 _ _ (hdry ⟨[], []⟩)⟩

end VulkanWire
