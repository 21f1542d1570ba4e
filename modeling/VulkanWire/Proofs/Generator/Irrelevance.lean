import VulkanWire.Proofs.Generator.Text
import VulkanWire.Proofs.Schema.Paring

/-!
# What a gate keeps out is irrelevant

A run cannot tell a schema from its pared form, in which unsupported features
are cut down to their exception types or dropped. It answers with the same
report, does the same to files and leaves the same generator behind: modules,
emitters and registry. So nothing else of an unsupported feature, neither its
kind and number nor the commands it requires, has any influence.

## Main results

* `runOn_walkFeatures_pared` — the walk through the features that are left.
* `run_pared` — whole runs.
-/

namespace VulkanWire.Generator

variable {ε : Type} {m : Type → Type} [Monad m]

/-- What comes after two steps that do the same does the same. -/
theorem runOn_bind_congr {α β : Type} {x y : Generating ε m α} {f : α → Generating ε m β}
    {g : Generator ε} (h : runOn x g = runOn y g) : runOn (x >>= f) g = runOn (y >>= f) g := by
  simp only [runOn, ExceptT.run_bind, StateT.run_bind] at h ⊢
  rw [h]

variable [LawfulMonad m] [Emitter ε] [Storage m] {relabel : Feature → FeatureKind × Option UInt32}

theorem runOn_walkFeatures_cons (f : Feature) (fs : List Feature) (g : Generator ε) :
    runOn (Schema.walkFeatures (visitor : Visitor (Generating ε m) _) (f :: fs)) g =
      runOn (walkFeature f >>= fun _ => Schema.walkFeatures visitor fs : Generating ε m Unit)
        g := by
  simp [Schema.walkFeatures, walkFeature]

/-- The walk through the features that are left is the walk through all of them. -/
theorem runOn_walkFeatures_pared (fs : List Feature) (g : Generator ε) (h : g.phase = .idle) :
    runOn (Schema.walkFeatures (visitor : Visitor (Generating ε m) _)
        (fs.filterMap (Schema.paredFeature? g.gate relabel))) g =
      runOn (Schema.walkFeatures (visitor : Visitor (Generating ε m) _) fs) g := by
  induction fs generalizing g with
  | nil => rfl
  | cons f fs ih =>
      cases hs : g.gate.isSupported f.name with
      | true =>
          have hwalk := runOn_walkFeature_supported (m := m) h hs
          rw [List.filterMap_cons_some (Schema.paredFeature?_supported hs), runOn_walkFeatures_cons,
            runOn_walkFeatures_cons, runOn_bind_of_ok hwalk, runOn_bind_of_ok hwalk]
          exact ih (g.resume _ _ .idle) rfl
      | false =>
          have hwalk := runOn_walkFeature_unsupported (m := m) h hs
          rw [runOn_walkFeatures_cons f fs, runOn_bind_of_ok hwalk]
          cases hf : Schema.paredFeature? g.gate relabel f with
          | none =>
              rw [List.filterMap_cons_none hf, Registry.through_dropped hs hf, resume_self h]
              exact ih g h
          | some f' =>
              have hs' : g.gate.isSupported f'.name = false := by
                rw [(Schema.paredFeature?_unsupported hs hf).1, hs]
              rw [List.filterMap_cons_some hf, runOn_walkFeatures_cons,
                runOn_bind_of_ok (runOn_walkFeature_unsupported h hs'),
                Registry.through_pared hs hf]
              exact ih (g.resume _ _ .idle) rfl

theorem phase_of_beginFile {g g' : Generator ε} (h : beginFile g = .ok g') :
    g'.phase = .idle ∧ g'.gate = g.gate := by
  unfold beginFile at h
  split at h
  · injection h with h
    rw [← h]
    exact ⟨rfl, rfl⟩
  · cases h
  · cases h

/-- A run cannot tell a valid schema from its pared form: whatever files are made of and wherever
the generator stands, it answers the same, does the same to files and leaves the same behind. -/
theorem run_pared {s : Schema} (hs : s.validate = .ok ()) (g : Generator ε)
    (relabel : Feature → FeatureKind × Option UInt32) :
    (s.pared g.gate relabel).validate = .ok () ∧
      (g.run (s.pared g.gate relabel) : m _) = g.run s := by
  have hpared : (s.pared g.gate relabel).validate = .ok () := Schema.validate_pared hs
  refine ⟨hpared, ?_⟩
  have hgenerate : (generate s : Generating ε m GenerationReport) = s.walk visitor := by
    rw [generate, hs]
  have hgenerate' : (generate (s.pared g.gate relabel) : Generating ε m GenerationReport) =
      (s.pared g.gate relabel).walk visitor := by
    rw [generate, hpared]
  rw [run, run, hgenerate, hgenerate', Schema.walk, Schema.walk]
  cases hbegin : beginFile g with
  | error fault =>
      have hfail : runOn (visitor : Visitor (Generating ε m) _).beginFile g = _ :=
        runOn_react_of_error hbegin
      rw [runOn_bind_of_error hfail, runOn_bind_of_error hfail]
  | ok g' =>
      obtain ⟨hphase, hgate⟩ := phase_of_beginFile hbegin
      have hstart : runOn (visitor : Visitor (Generating ε m) _).beginFile g = _ :=
        runOn_react hbegin
      rw [runOn_bind_of_ok hstart, runOn_bind_of_ok hstart, ← hgate]
      exact runOn_bind_congr (runOn_walkFeatures_pared s.features g' hphase)

/-! ## A cluttered schema -/

/-- The small schema with definitions that no gate of the small table lets through. -/
def clutteredSchema : Schema where
  features := [
    { name := "VK_VERSION_1_0", require := ["vkDoIt"],
      elements := [.command { name := "vkDoIt" }] },
    { name := "VK_EXT_more", kind := .instanceExtension, number := some 7, require := ["vkMore"],
      elements := [.command { name := "vkMore" }, .type { name := "int" },
        .type { name := "VkMore" }, .struct { name := "VkMoreInfo" }] },
    { name := "VK_EXT_other", require := ["vkOther"],
      elements := [.command { name := "vkOther" }] }]

/-- To the small table, the cluttered schema is the small one. -/
theorem run_pared_sample :
    clutteredSchema.validate = .ok () ∧
      clutteredSchema.pared sampleGate (fun _ => (.deviceExtension, none)) = sampleSchema ∧
      sampleSchema.validate = .ok () ∧
      ((assembled { outputDir := "out" } sampleGate sampleSpecs sampleBindings).run sampleSchema :
          OnDisk _) =
        (assembled { outputDir := "out" } sampleGate sampleSpecs sampleBindings).run
          clutteredSchema := by
  have hsmall :
      clutteredSchema.pared sampleGate (fun _ => (.deviceExtension, none)) = sampleSchema := by
    decide
  have hrun := run_pared (m := OnDisk) (s := clutteredSchema) rfl
    (assembled { outputDir := "out" } sampleGate sampleSpecs sampleBindings)
    fun _ => (.deviceExtension, none)
  have hgate : (assembled { outputDir := "out" } sampleGate sampleSpecs sampleBindings).gate =
      sampleGate := rfl
  rw [hgate, hsmall] at hrun
  exact ⟨rfl, hsmall, hrun⟩

end VulkanWire.Generator
