import Mathlib.Data.List.Forall2
import VulkanWire.Proofs.Generator.Coherence
import VulkanWire.Proofs.Generator.Course

/-!
# Dry runs as rehearsals

Whether files are touched is of no concern to a generator before its delivery:
the same events leave the same modules, emitters and registry behind. So a dry
run shows what a real run is going to write. Where the real run succeeds, its
files are the shown ones, one by one; where something fails, every file that it
still writes has the content that was shown for it.

## Main definitions

* `Generator.rehearsing` — the same generator, with or without touching files.
* `Matches` — a shown artifact and the same artifact written.
* `Rehearsed` — a real run, seen from what a dry run has shown.

## Main results

* `foldl_next_rehearsing` — events do not notice whether files are touched.
* `calls_run_dry` — no event of a dry run changes the disk.
* `dry_run_agrees` — a dry run and a real run of the same table compared.
-/

namespace VulkanWire

/-- The same options for a run that touches files, or none. -/
def GeneratorOptions.rehearsing (o : GeneratorOptions) (dryRun : Bool) : GeneratorOptions :=
  { o with dryRun := dryRun }

/-- An artifact that was shown, and the same artifact written. -/
inductive Matches : Delivery → Delivery → Prop where
  | written (kind : ArtifactKind) (path : Path) (content : String) :
      Matches (.shown kind path content) (.written kind path content.utf8ByteSize)

theorem matches_receipts (as : List Artifact) :
    List.Forall₂ Matches (as.map Artifact.preview) (as.map (Artifact.receipt false)) := by
  induction as with
  | nil => exact .nil
  | cons a as ih => exact .cons (.written a.kind a.path a.content) ih

/-- A real run on a disk, seen from what a dry run has shown. -/
structure Rehearsed (shown : List Delivery) (real : GenerationReport) (d d' : Disk) : Prop where
  /-- What is written, in this order, has been shown, all of it if nothing fails; nothing else is
  reported as written. -/
  writes : ∃ landed, Trail d landed d' ∧ (landed.map Artifact.preview).Sublist shown ∧
    real.deliveries.Sublist (landed.map (Artifact.receipt false)) ∧
    (real.isSuccess = true → landed.map Artifact.preview = shown)
  /-- If nothing fails, what is reported as written is what has been shown, position by
  position. -/
  positions : real.isSuccess = true → List.Forall₂ Matches shown real.deliveries

namespace Generator

variable {ε : Type}

/-- The same generator, with or without touching files. -/
def rehearsing (g : Generator ε) (dryRun : Bool) : Generator ε :=
  { g with options := g.options.rehearsing dryRun }

/-! ## Deliveries compared -/

variable {g : Generator ε}

/-- A real delivery writes what the intended report of a dry one shows. -/
theorem Delivers.rehearsed {d d' : Disk} {report : GenerationReport}
    (h : Delivers (g.rehearsing false) d report d') :
    report.fragments = (g.intended true).fragments ∧
      Rehearsed (g.intended true).deliveries report d d' := by
  obtain ⟨landed, htrail, hsub, hlisted, hall⟩ := h.exists_trail
  have hplan : (g.rehearsing false).plan = g.plan := rfl
  rw [deliveries_intended]
  refine ⟨h.fragments, ⟨landed, htrail, hsub.map _, hlisted, ?_⟩, ?_⟩
  · intro hok
    rw [(hall hok).2, hplan]
    rfl
  · intro hok
    rw [(hall hok).1, deliveries_intended, hplan]
    exact matches_receipts g.plan

variable [Emitter ε]

/-! ## Events do not notice -/

theorem turn_rehearsing (g : Generator ε) (dryRun : Bool) (e : Event) :
    (g.rehearsing dryRun).turn e = g.turn e := by
  cases e <;> rfl

theorem after_rehearsing (g : Generator ε) (dryRun : Bool) (e : Event) :
    (g.rehearsing dryRun).after e = (g.after e).rehearsing dryRun := by
  cases e <;> simp only [after, turn_rehearsing] <;> rfl

theorem next_rehearsing (g : Generator ε) (dryRun : Bool) (e : Event) :
    (g.rehearsing dryRun).next e = (g.next e).rehearsing dryRun := by
  cases h : g.phase.refusal? e with
  | some fault =>
      rw [next_of_refused h]
      exact next_of_refused h
  | none =>
      rw [next_of_accepted h, ← after_rehearsing]
      exact next_of_accepted h

/-- Events do not notice whether files are touched. -/
theorem foldl_next_rehearsing (g : Generator ε) (dryRun : Bool) (events : List Event) :
    events.foldl next (g.rehearsing dryRun) = (events.foldl next g).rehearsing dryRun := by
  induction events generalizing g with
  | nil => rfl
  | cons e events ih => rw [List.foldl_cons, List.foldl_cons, next_rehearsing, ih]

/-- In a dry run an event is answered the same way on every disk, and none is changed. -/
theorem on_run_dry (h : g.options.dryRun = true) (e : Event) :
    ∃ reply, ∀ d, (runOn ((visitor : Visitor (Generating ε OnDisk) _).on e) g : OnDisk _).run d =
      ((reply, g.next e), d) := by
  cases hr : g.phase.refusal? e with
  | some fault =>
      refine ⟨.error fault, fun d => ?_⟩
      rw [next_of_refused hr]
      exact on_run_of_refused hr d
  | none =>
      have hadvance := advance_of_accepted hr
      rw [next_of_accepted hr]
      cases e with
      | endFile =>
          refine ⟨.ok (some ((g.perform (g.turn .endFile)).intended true)), fun d => ?_⟩
          rw [Visitor.on]
          exact run_runOn_bind (runOn_endFile hr (deliver_dry (g := g.perform (g.turn .endFile)) h d))
      | _ =>
          exact ⟨.ok none, fun d =>
            congrArg (fun x : OnDisk _ => x.run d) (runOn_bind_of_ok (runOn_react hadvance))⟩

/-- No event of a dry run changes the disk. -/
theorem calls_run_dry (h : g.options.dryRun = true) (events : List Event) :
    ∃ replies, ∀ d, ((calls events).run g : OnDisk _).run d =
      ((replies, events.foldl next g), d) := by
  induction events generalizing g with
  | nil => exact ⟨[], calls_run_nil g⟩
  | cons e events ih =>
      have hoptions : (g.next e).options.dryRun = true := by
        cases hr : g.phase.refusal? e with
        | some fault => rw [next_of_refused hr, h]
        | none => rw [next_of_accepted hr, options_after, h]
      obtain ⟨reply, hfirst⟩ := on_run_dry h e
      obtain ⟨replies, hrest⟩ := ih hoptions
      exact ⟨reply :: replies, fun d => calls_run_cons (hfirst d) (hrest d)⟩

/-! ## Whole runs compared -/

variable {o : GeneratorOptions} {gate : FeatureGate} {specs : List ModuleSpec}
  {bindings : List (Binding ε)} {s : Schema}

/-- A dry run agrees with the real run: for every table and every valid schema, the dry run changes
no disk, the real run goes through the same states with every event, and it writes what the dry run
has shown. -/
theorem dry_run_agrees (hg : assemble (o.rehearsing true) gate specs bindings = .ok g)
    (hs : s.validate = .ok ()) :
    assemble (o.rehearsing false) gate specs bindings = .ok (g.rehearsing false) ∧
      (∀ events, ∃ replies g',
        (∀ d, ((calls events).run g : OnDisk _).run d = ((replies, g'), d)) ∧
        ∀ d, ∃ replies' d', ((calls events).run (g.rehearsing false) : OnDisk _).run d =
          ((replies', g'.rehearsing false), d')) ∧
      ∃ dry g', (∀ d, (g.run s : OnDisk _).run d = ((.ok dry, g'), d)) ∧
        ∀ d, ∃ real d', ((g.rehearsing false).run s : OnDisk _).run d =
            ((.ok real, g'.rehearsing false), d') ∧
          real.fragments = dry.fragments ∧ Rehearsed dry.deliveries real d d' := by
  have hready := (fresh_of_assemble hg).phase
  obtain ⟨hsound, rfl⟩ := assemble_eq_ok_iff.mp hg
  generalize hassembled : assembled (o.rehearsing true) gate specs bindings = g at *
  have hdry : g.options.dryRun = true := by rw [← hassembled]; rfl
  refine ⟨assemble_eq_ok_iff.mpr ⟨hsound, by rw [← hassembled]; rfl⟩, ?_, ?_⟩
  · intro events
    obtain ⟨replies, hrun⟩ := calls_run_dry hdry events
    refine ⟨replies, _, hrun, fun d => ?_⟩
    obtain ⟨replies', d', hrun'⟩ := calls_run events (g.rehearsing false) d
    rw [foldl_next_rehearsing] at hrun'
    exact ⟨replies', d', hrun'⟩
  · -- Both runs come down to the end of the file, after the same events.
    have hended : (s.innerEvents.foldl next g).phase.refusal? .endFile = none :=
      Phase.refusal?_endFile.mpr (welcomes_innerEvents s hready).2
    have hoptions : (s.innerEvents.foldl next g).options.dryRun = true := by
      rw [options_foldl, hdry]
    have hready' : (g.rehearsing false).phase = .ready := hready
    rw [run_eq_endFile hready hs, run_eq_endFile hready' hs, foldl_next_rehearsing]
    generalize s.innerEvents.foldl next g = g₁ at *
    have hshown := deliver_dry (g := g₁.perform (g₁.turn .endFile)) hoptions
    refine ⟨_, _, fun d => runOn_endFile hended (hshown d), fun d => ?_⟩
    obtain ⟨real, d', hdeliver, hdelivers⟩ :=
      exists_delivers (g := (g₁.perform (g₁.turn .endFile)).rehearsing false) rfl d
    have hturn : (g₁.rehearsing false).perform ((g₁.rehearsing false).turn .endFile) =
        (g₁.perform (g₁.turn .endFile)).rehearsing false := rfl
    rw [← hturn] at hdeliver
    exact ⟨real, d', runOn_endFile hended hdeliver, hdelivers.rehearsed⟩

/-- The small table, rehearsed and then written into an empty file system. -/
theorem dry_run_agrees_sample :
    assemble (GeneratorOptions.rehearsing { outputDir := "out" } false) sampleGate sampleSpecs
        sampleBindings =
      .ok ((assembled (GeneratorOptions.rehearsing { outputDir := "out" } true) sampleGate
        sampleSpecs sampleBindings).rehearsing false) ∧
      (∀ events, ∃ replies g',
        (∀ d, ((calls events).run (assembled (GeneratorOptions.rehearsing { outputDir := "out" } true)
          sampleGate sampleSpecs sampleBindings) : OnDisk _).run d = ((replies, g'), d)) ∧
        ∀ d, ∃ replies' d', ((calls events).run
            ((assembled (GeneratorOptions.rehearsing { outputDir := "out" } true) sampleGate
              sampleSpecs sampleBindings).rehearsing false) : OnDisk _).run d =
          ((replies', g'.rehearsing false), d')) ∧
      ∃ dry g', (∀ d, ((assembled (GeneratorOptions.rehearsing { outputDir := "out" } true)
          sampleGate sampleSpecs sampleBindings).run sampleSchema : OnDisk _).run d =
            ((.ok dry, g'), d)) ∧
        ∀ d, ∃ real d', (((assembled (GeneratorOptions.rehearsing { outputDir := "out" } true)
            sampleGate sampleSpecs sampleBindings).rehearsing false).run sampleSchema :
              OnDisk _).run d = ((.ok real, g'.rehearsing false), d') ∧
          real.fragments = dry.fragments ∧ Rehearsed dry.deliveries real d d' :=
  dry_run_agrees (assemble_eq_ok_iff.mpr ⟨sample_sound, rfl⟩) rfl

end Generator

end VulkanWire
