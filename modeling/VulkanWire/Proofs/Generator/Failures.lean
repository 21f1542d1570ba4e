import Mathlib.Data.List.Forall2
import VulkanWire.Proofs.Generator.Coherence
import VulkanWire.Proofs.Generator.Course

/-!
# Failures of single deliveries

A file or directory that the disk refuses costs the module or build fragment it
belongs to, and nothing else: those before it stand, those after it are attempted
on whatever disk they find, and the report accounts for every one of them. What
the build fragments list does not depend on failures at all; it was settled when
the generator was assembled.

## Main definitions

* `Accounts` — what a report of a real delivery accounts for.
* `EndsAccounted` — a step that delivers and whose report accounts for it.

## Main results

* `perm_modules` — the lists of a report are a partition of its modules.
* `map_blank_foldl` — events change nothing about modules but their text.
* `write_failures_are_isolated` — however a real run comes to its end, and
  whatever fails there.
-/

namespace VulkanWire

/-! ## What a module keeps -/

namespace OutputModule

/-- The module as it was before it gathered any text. -/
def blank (m : OutputModule) : OutputModule :=
  { m with header := "", implementation := "", finalized := false }

@[simp] theorem blank_take (m : OutputModule) (e : Emission) : (m.take e).blank = m.blank := by
  unfold take
  split <;> rfl

@[simp] theorem blank_spent (m : OutputModule) : m.spent.blank = m.blank := rfl

@[simp] theorem name_blank (m : OutputModule) : m.blank.name = m.name := rfl

/-- Whether the module is to leave an implementation file. -/
def hasImplementation (m : OutputModule) : Bool := m.artifacts.any (·.kind = .implementation)

theorem hasImplementation_eq (m : OutputModule) : m.hasImplementation = !m.spec.headerOnly := by
  rw [hasImplementation, artifacts]
  cases m.spec.implOnly <;> cases m.spec.headerOnly <;> rfl

/-- The modules of some roles that a build has to know of. -/
def built (roles : ModuleRole → Bool) (ms : List OutputModule) : List OutputModule :=
  ms.filter fun m => !m.suppressed && m.hasImplementation && roles m.spec.role

/-- The build entries of some roles name the implementation files of the modules to be built. -/
theorem path_buildSources (roles : ModuleRole → Bool) (ms : List OutputModule) :
    ((ms.filterMap (·.buildSource?)).filter fun e => roles e.role).map (·.path) =
      (built roles ms).map (·.implPath) := by
  induction ms with
  | nil => rfl
  | cons m ms ih =>
      have hsource : m.buildSource? =
          if !m.suppressed && m.hasImplementation then some ⟨m.spec.role, m.name, m.implPath⟩
          else none := by
        rw [buildSource?, hasImplementation_eq]
        cases m.suppressed <;> cases m.spec.headerOnly <;> rfl
      rw [built] at ih ⊢
      rw [List.filterMap_cons, List.filter_cons, hsource]
      cases !m.suppressed && m.hasImplementation with
      | false => simpa using ih
      | true =>
          cases hrole : roles m.spec.role with
          | false => simpa [hrole] using ih
          | true => simpa [hrole] using ih

end OutputModule

/-! ## Outcomes of modules -/

/-- An outcome of a module that is finalized for the first time. -/
structure Answers (m : OutputModule) (o : ModuleOutcome) : Prop where
  module : o.module = m.name
  once : ∀ name, o ≠ .alreadyFinalized name
  suppressed : o = .suppressed m.name ↔ m.suppressed = true

theorem answers_suppressed {m : OutputModule} (h : m.suppressed = true) :
    Answers m (.suppressed m.name) where
  module := rfl
  once name hname := by cases hname
  suppressed := by simp [h]

theorem answers_outcomeOf {m : OutputModule} (h : m.suppressed = false)
    (result : Except PartialDelivery (List Delivery)) : Answers m (m.outcomeOf result) where
  module := by cases result <;> rfl
  once name := by cases result <;> simp [OutputModule.outcomeOf]
  suppressed := by cases result <;> simp [OutputModule.outcomeOf, h]

/-- Modules that are finalized for the first time answer one by one. -/
theorem Finalizes.answers {ms : List OutputModule} {d d' : Disk} {outcomes : List ModuleOutcome}
    (h : Finalizes ms d outcomes d') (hfresh : ∀ m ∈ ms, m.finalized = false) :
    List.Forall₂ Answers ms outcomes := by
  induction h with
  | done d => exact .nil
  | again finalized _ _ =>
      rw [hfresh _ List.mem_cons_self] at finalized
      cases finalized
  | withheld _ suppressed _ ih =>
      exact .cons (answers_suppressed suppressed) (ih (List.forall_mem_cons.mp hfresh).2)
  | attempted _ wanted _ _ ih =>
      exact .cons (answers_outcomeOf wanted _) (ih (List.forall_mem_cons.mp hfresh).2)

theorem module_of_answers {ms : List OutputModule} {outcomes : List ModuleOutcome}
    (h : List.Forall₂ Answers ms outcomes) : outcomes.map (·.module) = ms.map (·.name) := by
  induction h with
  | nil => rfl
  | cons hfirst _ ih => rw [List.map_cons, List.map_cons, hfirst.module, ih]

theorem once_of_answers {ms : List OutputModule} {outcomes : List ModuleOutcome}
    (h : List.Forall₂ Answers ms outcomes) :
    ∀ o ∈ outcomes, ∀ name, o ≠ .alreadyFinalized name := by
  induction h with
  | nil => simp
  | cons hfirst _ ih => exact List.forall_mem_cons.mpr ⟨hfirst.once, ih⟩

/-- A module answers alike whatever text it has. -/
theorem forall₂_answers_blank {ms : List OutputModule} {outcomes : List ModuleOutcome} :
    List.Forall₂ Answers (ms.map (·.blank)) outcomes ↔ List.Forall₂ Answers ms outcomes := by
  rw [List.forall₂_map_left_iff]
  have hblank : ∀ m o, Answers m.blank o ↔ Answers m o :=
    fun m o => ⟨fun h => ⟨h.module, h.once, h.suppressed⟩, fun h => ⟨h.module, h.once, h.suppressed⟩⟩
  simp only [hblank]

/-- The lists of a report are a partition of its modules if none had been finalized before. -/
theorem perm_modules {r : GenerationReport}
    (honce : ∀ o ∈ r.outcomes, ∀ name, o ≠ .alreadyFinalized name) :
    (r.written ++ r.suppressed ++ r.failed.map (·.1)).Perm (r.outcomes.map (·.module)) := by
  obtain ⟨outcomes, fragments, fragmentOutcomes, suppressExcept⟩ := r
  simp only [GenerationReport.written, GenerationReport.suppressed, GenerationReport.failed]
  induction outcomes with
  | nil => exact .nil
  | cons o outcomes ih =>
      rw [List.forall_mem_cons] at honce
      have htail := ih honce.2
      cases o with
      | delivered name results => exact htail.cons name
      | suppressed name =>
          refine List.Perm.trans ?_ (htail.cons name)
          exact List.perm_middle.append_right _
      | failed name fault landed =>
          refine List.Perm.trans ?_ (htail.cons name)
          exact List.perm_middle
      | alreadyFinalized name => exact absurd rfl (honce.1 name)

namespace Generator

variable {ε : Type}

/-! ## What a report accounts for -/

/-- What a report accounts for when the modules `ms` of a generator, which were `declared` when it
was assembled, are delivered on a disk. -/
structure Accounts (o : GeneratorOptions) (declared ms : List OutputModule) (d : Disk)
    (report : GenerationReport) (d' : Disk) : Prop where
  /-- All modules are attempted in order, each on the disk that those before it leave, and after
  them the build fragments, the guest's first, unless only one module is wanted. -/
  attempts : ∃ d₁, Finalizes ms d report.outcomes d₁ ∧
    FragmentAttempts
      (if o.isSuppressing then []
      else [
        ⟨.buildFragment, o.guestFragmentPath, report.fragments.renderGuest o.guestDir o.fragments⟩,
        ⟨.buildFragment, o.hostFragmentPath, report.fragments.renderHost o.outputDir o.fragments⟩])
      d₁ report.fragmentOutcomes d'
  /-- Every module answers once, in order, and is told to be suppressed exactly if it is. -/
  outcomes : List.Forall₂ Answers declared report.outcomes
  guest : report.fragments.guest.map (·.path) =
    (OutputModule.built (· = .guestEncoder) declared).map (·.implPath)
  host : report.fragments.host.map (·.path) =
    (OutputModule.built (fun r => r = .host ∨ r = .common) declared).map (·.implPath)
  /-- The build entries are the ones of the modules as they were declared. -/
  fragments : report.fragments = .ofEntries (declared.filterMap (·.buildSource?))
  /-- Every module is written, suppressed or failed. -/
  partition : (report.written ++ report.suppressed ++ report.failed.map (·.1)).Perm
    (declared.map (·.name))
  /-- No module is more than one of these. -/
  distinct : (report.written ++ report.suppressed ++ report.failed.map (·.1)).Nodup
  success : report.isSuccess = true ↔
    (∀ outcome ∈ report.outcomes, outcome.isFailure = false) ∧
      ∀ fault, FragmentOutcome.failed fault ∉ report.fragmentOutcomes

/-- A step that delivers on every disk, with a report that accounts for it. -/
def EndsAccounted (o : GeneratorOptions) (declared : List OutputModule)
    (x : Generating ε OnDisk GenerationReport) (g : Generator ε) : Prop :=
  ∃ ms : List OutputModule, ms.map (·.blank) = declared ∧
    ∀ d, ∃ report g' d', (runOn x g : OnDisk _).run d = ((.ok report, g'), d') ∧
      g'.modules = ms.map (·.spent) ∧ Accounts o declared ms d report d'

/-- A generator whose modules are still to be finalized, seen from the ones it was assembled
with. -/
structure Undelivered (o : GeneratorOptions) (declared : List OutputModule) (g : Generator ε) :
    Prop where
  options : g.options = o
  modules : g.modules.map (·.blank) = declared
  fresh : ∀ m ∈ g.modules, m.finalized = false

variable {o : GeneratorOptions} {declared : List OutputModule} {g : Generator ε}

/-- Build entries do not depend on text. -/
theorem Undelivered.buildFragments (h : Undelivered o declared g) :
    g.buildFragments = .ofEntries (declared.filterMap (·.buildSource?)) := by
  rw [Generator.buildFragments, ← h.modules, List.filterMap_map]
  rfl

/-- A delivery of modules with distinct names is accounted for. -/
theorem Delivers.accounts {d d' : Disk} {report : GenerationReport}
    (h : Delivers g d report d') (hdeclared : Undelivered o declared g)
    (hdistinct : (declared.map (·.name)).Nodup) : Accounts o declared g.modules d report d' := by
  obtain ⟨⟨d₁, hfinalizes, hattempts⟩, hfragments, -⟩ := h
  rw [plannedFragments, ← hfragments, hdeclared.options] at hattempts
  rw [hdeclared.buildFragments] at hfragments
  have hanswers : List.Forall₂ Answers declared report.outcomes := by
    rw [← hdeclared.modules, forall₂_answers_blank]
    exact hfinalizes.answers hdeclared.fresh
  have hpartition : (report.written ++ report.suppressed ++ report.failed.map (·.1)).Perm
      (declared.map (·.name)) := by
    rw [← module_of_answers hanswers]
    exact perm_modules (once_of_answers hanswers)
  have hothers : (fun r : ModuleRole => decide (r ≠ .guestEncoder)) =
      fun r => decide (r = .host ∨ r = .common) := by
    funext r
    cases r <;> rfl
  exact {
    attempts := ⟨d₁, hfinalizes, hattempts⟩
    outcomes := hanswers
    guest := by
      rw [hfragments, BuildFragments.ofEntries_eq]
      exact OutputModule.path_buildSources (fun r => r = .guestEncoder) declared
    host := by
      rw [hfragments, BuildFragments.ofEntries_eq, ← hothers]
      exact OutputModule.path_buildSources (fun r => r ≠ .guestEncoder) declared
    fragments := hfragments
    partition := hpartition
    distinct := hpartition.nodup_iff.mpr hdistinct
    success := isSuccess_iff }

/-! ## What events leave alone -/

variable [Emitter ε]

theorem map_blank_after (g : Generator ε) (e : Event) :
    (g.after e).modules.map (·.blank) = g.modules.map (·.blank) := by
  rw [modules_after]
  apply List.ext_getElem?
  intro place
  simp only [List.getElem?_map, List.getElem?_mapIdx, Option.map_map]
  congr 1
  funext m
  simp only [Function.comp_apply]
  split <;> simp

/-- Events change nothing about modules but their text. -/
theorem map_blank_foldl (g : Generator ε) (events : List Event) :
    (events.foldl next g).modules.map (·.blank) = g.modules.map (·.blank) :=
  foldl_next_induction (P := fun g' => g'.modules.map (·.blank) = g.modules.map (·.blank))
    (fun {g' e} _ h => (map_blank_after g' e).trans h) rfl events

variable {gate : FeatureGate} {specs : List ModuleSpec} {bindings : List (Binding ε)}
  {g₀ : Generator ε}

omit [Emitter ε] in
/-- Assembled modules have no text. -/
theorem map_blank_assembled :
    (assembled o gate specs bindings).modules.map (·.blank) =
      (assembled o gate specs bindings).modules := by
  refine (List.map_congr_left ?_).trans (List.map_id _)
  intro m hm
  obtain ⟨m₀, hm₀, suppressed, rfl, -⟩ := exists_of_mem_suppress hm
  obtain ⟨spec, -, rfl⟩ := List.mem_map.mp hm₀
  rfl

/-- After any events that end between features, what is left to do is the delivery. -/
theorem undelivered_of_idle (hg : assemble o gate specs bindings = .ok g₀) {events : List Event}
    (hidle : (events.foldl next g₀).phase = .idle) :
    Undelivered o g₀.modules
      ((events.foldl next g₀).perform ((events.foldl next g₀).turn .endFile)) := by
  have hsettled : (events.foldl next g₀).Settled :=
    settled_foldl (fresh_of_assemble hg).settled events
  obtain ⟨hsound, rfl⟩ := assemble_eq_ok_iff.mp hg
  have hblank := map_blank_foldl (assembled o gate specs bindings) events
  have hoptions := options_foldl (assembled o gate specs bindings) events
  generalize events.foldl next (assembled o gate specs bindings) = g at *
  exact {
    options := hoptions
    modules := by
      rw [← map_blank_assembled, ← hblank, ← map_blank_after g .endFile]
      show _ = ((g.perform (g.turn .endFile)).modules.map (·.spent)).map (·.blank)
      rw [List.map_map]
      rfl
    fresh := by
      intro m hm
      rw [perform, resume, Turn.modules_perform] at hm
      obtain ⟨place, hplace, rfl⟩ := List.mem_mapIdx.mp hm
      rw [OutputModule.finalized_take, hsettled _ (List.getElem_mem hplace), hidle]
      rfl }

/-- Where events lead between features, a step that comes down to the end of the file is accounted
for. -/
theorem endsAccounted_of_idle (hg : assemble o gate specs bindings = .ok g₀)
    (hreal : o.dryRun = false) {events : List Event} (hidle : (events.foldl next g₀).phase = .idle)
    {x : Generating ε OnDisk GenerationReport} {g : Generator ε}
    (hx : (runOn x g : OnDisk _) =
      runOn (visitor : Visitor (Generating ε OnDisk) _).endFile (events.foldl next g₀)) :
    EndsAccounted o g₀.modules x g := by
  have hdeclared := undelivered_of_idle hg hidle
  have hdistinct : (g₀.modules.map (·.name)).Nodup := by
    obtain ⟨hsound, rfl⟩ := assemble_eq_ok_iff.mp hg
    rw [map_name_assembled]
    exact hsound.distinct
  refine ⟨_, hdeclared.modules, ?_⟩
  intro d
  obtain ⟨report, d', hdeliver, hdelivers⟩ :=
    exists_delivers (g := (events.foldl next g₀).perform ((events.foldl next g₀).turn .endFile))
      (by rw [hdeclared.options, hreal]) d
  refine ⟨report, delivered _, d', ?_, rfl, hdelivers.accounts hdeclared hdistinct⟩
  rw [hx]
  exact runOn_endFile (Phase.refusal?_endFile.mpr hidle) hdeliver

/-- Failures are isolated: for every table and every run of it that touches files and comes to its
end, be it by a whole schema or by events of any kind, each module and each build fragment is
attempted whatever has failed before, and the report accounts for all of them. -/
theorem write_failures_are_isolated (hg : assemble o gate specs bindings = .ok g₀)
    (hreal : o.dryRun = false) :
    (∀ s, s.validate = .ok () → EndsAccounted o g₀.modules (generate s) g₀) ∧
      ∀ events, ∃ g,
        (∀ d, ∃ replies d', ((calls events).run g₀ : OnDisk _).run d = ((replies, g), d')) ∧
        ((∃ fault, ∀ d,
            (runOn (visitor : Visitor (Generating ε OnDisk) _).endFile g : OnDisk _).run d =
              ((.error fault, g), d)) ∨
          EndsAccounted o g₀.modules (visitor : Visitor (Generating ε OnDisk) _).endFile g) := by
  constructor
  · intro s hs
    have hready := (fresh_of_assemble hg).phase
    exact endsAccounted_of_idle hg hreal (welcomes_innerEvents s hready).2 (run_eq_endFile hready hs)
  · intro events
    refine ⟨events.foldl next g₀, fun d => ?_, ?_⟩
    · obtain ⟨replies, d', hrun⟩ := calls_run events g₀ d
      exact ⟨replies, d', hrun⟩
    · cases hr : (events.foldl next g₀).phase.refusal? .endFile with
      | some fault =>
          left
          refine ⟨fault, fun d => ?_⟩
          have hclose := advance_of_refused hr
          show (runOn (conclude : Generating ε OnDisk _) _ : OnDisk _).run d = _
          rw [conclude, runOn_bind_of_error (runOn_react_of_error hclose)]
          rfl
      | none =>
          right
          exact endsAccounted_of_idle hg hreal (Phase.refusal?_endFile.mp hr) rfl

/-- The small table, assembled to write files. -/
theorem write_failures_are_isolated_sample :
    (∀ s, s.validate = .ok () → EndsAccounted { outputDir := "out" }
        (assembled { outputDir := "out" } sampleGate sampleSpecs sampleBindings).modules (generate s)
        (assembled { outputDir := "out" } sampleGate sampleSpecs sampleBindings)) ∧
      ∀ events, ∃ g,
        (∀ d, ∃ replies d', ((calls events).run
          (assembled { outputDir := "out" } sampleGate sampleSpecs sampleBindings) :
            OnDisk _).run d = ((replies, g), d')) ∧
        ((∃ fault, ∀ d,
            (runOn (visitor : Visitor (Generating StandardEmitter OnDisk) _).endFile g :
              OnDisk _).run d = ((.error fault, g), d)) ∨
          EndsAccounted { outputDir := "out" }
            (assembled { outputDir := "out" } sampleGate sampleSpecs sampleBindings).modules
            (visitor : Visitor (Generating StandardEmitter OnDisk) _).endFile g) :=
  write_failures_are_isolated (assemble_eq_ok_iff.mpr ⟨sample_sound, rfl⟩) rfl

/-- Where a file stands in place of the guest directory, the guest module and its build fragment
fail, and the host module is written all the same. -/
example :
    ((((assembled { outputDir := "out" } sampleGate sampleSpecs sampleBindings).run sampleSchema :
      OnDisk _).run ⟨[(["out"], .directory), (["out", "guest"], .file .empty)], []⟩).1.1.toOption.map
        fun report => (report.written, report.failed.map (·.1), report.fragmentFaults.length)) =
      some (["alpha"], ["beta"], 1) := by
  decide +kernel

end Generator

end VulkanWire
