import VulkanWire.Proofs.Generator.Course
import VulkanWire.Proofs.Generator.Text

/-!
# Several runs of one generator

A run is all or nothing. A schema that is not valid is refused before the first
event, and the generator stands ready as before; a valid one takes a ready
generator to the end of its file, whatever happens to the files that are
delivered. After that the generator has nothing left to give: whatever it is
asked to run, it refuses, and neither it nor the disk changes any more.

## Main definitions

* `Schema.refusal` — what a generator whose file has ended answers to a schema.
* `Generator.runs` — runs one after the other.

## Main results

* `run_spent` — a generator whose file has ended refuses every schema.
* `exists_run` — a ready generator gets to the end of every valid schema.
* `runs_all_or_nothing` — any runs before and after the one that counts.
-/

namespace VulkanWire

/-- The fault that a schema is refused with once a file has ended: its own one, or else that there
is no beginning another file. -/
def Schema.refusal (s : Schema) : GenerationFault :=
  match s.validate with
  | .error fault => .schema fault
  | .ok () => .lifecycle (.spent Event.beginFile.label)

namespace Generator

variable {ε : Type} [Emitter ε]

/-- Runs of a generator, one schema after the other, also after a refusal, and what they are
answered. -/
def runs {m : Type → Type} [Monad m] [Storage m] (schemas : List Schema) :
    StateT (Generator ε) m (List (Except GenerationFault GenerationReport)) :=
  schemas.mapM fun s => ExceptT.run (generate s)

/-! ## One run -/

section Running

variable {m : Type → Type} [Monad m] [LawfulMonad m] [Storage m] {g : Generator ε} {s : Schema}

/-- A generator whose file has ended refuses every schema. -/
theorem run_spent (h : g.phase = .spent) (s : Schema) :
    (g.run s : m _) = pure (.error s.refusal, g) := by
  cases hs : s.validate with
  | error fault =>
      rw [run_invalid g hs, Schema.refusal, hs]
  | ok _ =>
      have hbegin : beginFile g = .error s.refusal := by
        rw [beginFile, h, Schema.refusal, hs]
        rfl
      rw [run, generate, hs]
      exact runOn_bind_of_error (runOn_react_of_error hbegin)

end Running

variable {g : Generator ε} {s : Schema}

/-- A ready generator gets to the end of every valid schema, whatever the disk. -/
theorem exists_run (h : g.phase = .ready) (hs : s.validate = .ok ()) (d : Disk) :
    ∃ report g' d', (g.run s : OnDisk _).run d = ((.ok report, g'), d') ∧ g'.phase = .spent := by
  let idle := s.innerEvents.foldl next g
  have hend : idle.phase.refusal? .endFile = none :=
    Phase.refusal?_endFile.mpr (welcomes_innerEvents s h).2
  obtain ⟨report, d', hdeliver⟩ := exists_deliver (idle.perform (idle.turn .endFile)) d
  refine ⟨report, (idle.perform (idle.turn .endFile)).delivered, d', ?_, rfl⟩
  rw [run_eq_endFile h hs]
  exact runOn_endFile hend hdeliver

/-! ## Several runs -/

/-- The runs after a first one find the generator and the disk as that one leaves them. -/
theorem runs_run_cons {ss : List Schema} {g' g'' : Generator ε} {d d' d'' : Disk}
    {answer : Except GenerationFault GenerationReport}
    {answers : List (Except GenerationFault GenerationReport)}
    (hfirst : (g.run s : OnDisk _).run d = ((answer, g'), d'))
    (hrest : ((runs ss).run g' : OnDisk _).run d' = ((answers, g''), d'')) :
    ((runs (s :: ss)).run g : OnDisk _).run d = ((answer :: answers, g''), d'') := by
  rw [runs, List.mapM_cons, StateT.run_bind]
  refine (OnDisk.run_bind hfirst).trans ?_
  rw [StateT.run_bind]
  exact OnDisk.run_bind hrest

/-- Runs that are refused leave it to those after them what happens. -/
theorem runs_run_append {refused ss : List Schema} {g' : Generator ε} {d d' : Disk}
    {answers : List (Except GenerationFault GenerationReport)}
    (hrefused : ∀ f ∈ refused, (g.run f : OnDisk _) = pure (.error f.refusal, g))
    (hrest : ((runs ss).run g : OnDisk _).run d = ((answers, g'), d')) :
    ((runs (refused ++ ss)).run g : OnDisk _).run d =
      ((refused.map (fun f => .error f.refusal) ++ answers, g'), d') := by
  induction refused with
  | nil => exact hrest
  | cons f refused ih =>
      have hfirst : (g.run f : OnDisk _).run d = ((.error f.refusal, g), d) := by
        rw [hrefused f List.mem_cons_self]
        rfl
      exact runs_run_cons hfirst (ih fun f' hf' => hrefused f' (List.mem_cons_of_mem _ hf'))

/-- A run to the end of a file, with all other runs of the same generator. -/
structure Concludes (g : Generator ε) (s : Schema) (d : Disk) (report : GenerationReport)
    (g' : Generator ε) (d' : Disk) : Prop where
  run : (g.run s : OnDisk _).run d = ((.ok report, g'), d')
  phase : g'.phase = .spent
  /-- Whatever is refused before it makes no difference to it. -/
  before : ∀ failed : List Schema, (∀ f ∈ failed, f.validate ≠ .ok ()) →
    ((runs (failed ++ [s])).run g : OnDisk _).run d =
      ((failed.map (fun f => .error f.refusal) ++ [.ok report], g'), d')
  /-- Whatever is run after it is refused, on every disk, and changes nothing. -/
  after : ∀ (later : List Schema) (e : Disk),
    ((runs later).run g' : OnDisk _).run e = ((later.map fun f => .error f.refusal, g'), e)

theorem Concludes.of_run {g' : Generator ε} {d d' : Disk} {report : GenerationReport}
    (h : (g.run s : OnDisk _).run d = ((.ok report, g'), d')) (hphase : g'.phase = .spent) :
    Concludes g s d report g' d' where
  run := h
  phase := hphase
  before := by
    intro failed hfailed
    refine runs_run_append (fun f hf => ?_) (runs_run_cons h rfl)
    cases hs : f.validate with
    | error fault => rw [run_invalid g hs, Schema.refusal, hs]
    | ok _ => exact absurd hs (hfailed f hf)
  after := by
    intro later e
    have hnone : ((runs []).run g' : OnDisk _).run e = (([], g'), e) := rfl
    have hall := runs_run_append (fun f (_ : f ∈ later) => run_spent hphase f) hnone
    rwa [List.append_nil, List.append_nil] at hall

variable {o : GeneratorOptions} {gate : FeatureGate} {specs : List ModuleSpec}
  {bindings : List (Binding ε)}

/-- A run is all or nothing. An assembled generator is ready. A schema that is not valid it refuses
with the offence, and then generator and disk are as before. With a valid one it gets to the end of
the file, which comes out the same after any number of refusals, and after it everything else is
refused, for its own offence or because the file has ended, and changes neither of the two. -/
theorem runs_all_or_nothing (hg : assemble o gate specs bindings = .ok g) (s : Schema) (d : Disk) :
    g.phase = .ready ∧
      match s.validate with
      | .error fault => (g.run s : OnDisk _).run d = ((.error (.schema fault), g), d)
      | .ok () => ∃ report g' d', Concludes g s d report g' d' := by
  obtain ⟨-, rfl⟩ := assemble_eq_ok_iff.mp hg
  have hready : (assembled o gate specs bindings).phase = .ready := rfl
  refine ⟨hready, ?_⟩
  cases hs : s.validate with
  | error fault =>
      rw [run_invalid _ hs]
      rfl
  | ok _ =>
      obtain ⟨report, g', d', hrun, hphase⟩ := exists_run hready hs d
      exact ⟨report, g', d', .of_run hrun hphase⟩

/-- The small table and the small schema, on an empty disk. -/
theorem runs_all_or_nothing_sample :
    ∃ report g' d',
      Concludes (assembled { outputDir := "out" } sampleGate sampleSpecs sampleBindings)
        sampleSchema ⟨[], []⟩ report g' d' :=
  (runs_all_or_nothing (assemble_eq_ok_iff.mpr ⟨sample_sound, rfl⟩) sampleSchema ⟨[], []⟩).2

end Generator

end VulkanWire
