import VulkanWire.Generator.Run
import VulkanWire.Proofs.Output.Attempt
import VulkanWire.Proofs.Output.Gathering

/-!
# How a generator delivers

A dry delivery shows the plan of a generator and leaves the disk alone. A real
one attempts module after module and then the build fragments, whatever has
failed before. It leaves a trail of planned artifacts and, if nothing fails, of
the whole plan in its order. Either way every module ends up finalized with the
text it had.

## Main definitions

* `Finalizes`, `FragmentAttempts` — modules and build fragments, one after the
  other.
* `Generator.plan` — the artifacts of a delivery, in order.
* `Generator.intended` — the report of a delivery that nothing goes wrong with.
* `Generator.Delivers` — a real delivery with its report.

## Main results

* `deliver_dry` — a dry delivery reports what is intended.
* `exists_delivers`, `Delivers.exists_trail` — a real delivery, with its trail.
* `deliveries_intended` — the intended report lists the plan.
-/

namespace VulkanWire

/-! ## One module -/

namespace OutputModule

variable (m : OutputModule)

/-- The module once it has been finalized. -/
def spent : OutputModule := { m with finalized := true }

/-- The artifacts that finalizing the module delivers. -/
def due : List Artifact := if m.finalized || m.suppressed then [] else m.artifacts

/-- The outcome of finalizing the module when nothing goes wrong. -/
def intended (dryRun : Bool) : ModuleOutcome :=
  if m.finalized then .alreadyFinalized m.name
  else if m.suppressed then .suppressed m.name
  else .delivered m.name (m.artifacts.map (Artifact.receipt dryRun))

/-- The outcome of delivering all artifacts of the module as a unit. -/
def outcomeOf : Except PartialDelivery (List Delivery) → ModuleOutcome
  | .ok results => .delivered m.name results
  | .error p => .failed m.name p.fault (p.landed.map (·.path))

@[simp] theorem spec_spent : m.spent.spec = m.spec := rfl

@[simp] theorem name_spent : m.spent.name = m.name := rfl

@[simp] theorem usesGuards_spent : m.spent.usesGuards = m.usesGuards := rfl

@[simp] theorem suppressed_spent : m.spent.suppressed = m.suppressed := rfl

@[simp] theorem text_spent : m.spent.text = m.text := rfl

@[simp] theorem module_intended (dryRun : Bool) : (m.intended dryRun).module = m.name := by
  unfold intended
  split
  · rfl
  · split <;> rfl

variable {m}

/-- A module that is neither finalized nor suppressed is to deliver all its artifacts. -/
theorem intended_of_due (h : m.finalized = false) (hs : m.suppressed = false) (dryRun : Bool) :
    m.intended dryRun = .delivered m.name (m.artifacts.map (Artifact.receipt dryRun)) := by
  simp [intended, h, hs]

theorem spent_of_finalized (h : m.finalized = true) : m.spent = m := by
  cases m
  simp only at h
  subst h
  rfl

theorem finalize_of_finalized (h : m.finalized = true) (dryRun : Bool) (d : Disk) :
    (m.finalize dryRun : OnDisk _).run d = ((m.intended dryRun, m.spent), d) := by
  rw [spent_of_finalized h]
  simp only [finalize, intended, h, if_true]
  rfl

theorem finalize_of_suppressed (h : m.finalized = false) (hs : m.suppressed = true)
    (dryRun : Bool) (d : Disk) :
    (m.finalize dryRun : OnDisk _).run d = ((m.intended dryRun, m.spent), d) := by
  have hf : ¬ m.finalized = true := by simp [h]
  simp only [finalize, intended, if_neg hf, if_pos hs]
  rfl

/-- A module that is neither finalized nor suppressed delivers its artifacts as a unit. -/
theorem finalize_of_due {d d' : Disk} {dryRun : Bool}
    {result : Except PartialDelivery (List Delivery)} (h : m.finalized = false)
    (hs : m.suppressed = false)
    (hunit : (deliverUnit dryRun m.artifacts : OnDisk _).run d = (result, d')) :
    (m.finalize dryRun : OnDisk _).run d = ((m.outcomeOf result, m.spent), d') := by
  have hf : ¬ m.finalized = true := by simp [h]
  have hs' : ¬ m.suppressed = true := by simp [hs]
  rw [finalize, if_neg hf, if_neg hs', OnDisk.run_bind hunit]
  cases result with
  | ok results => rfl
  | error p => rfl

theorem finalize_dry (d : Disk) :
    (m.finalize true : OnDisk _).run d = ((m.intended true, m.spent), d) := by
  by_cases h : m.finalized = true
  · exact finalize_of_finalized h true d
  · have hf : m.finalized = false := by simpa using h
    by_cases hs : m.suppressed = true
    · exact finalize_of_suppressed hf hs true d
    · have hs' : m.suppressed = false := by simpa using hs
      have hunit : (deliverUnit true m.artifacts : OnDisk _).run d =
          (.ok (m.artifacts.map Artifact.preview), d) := rfl
      rw [finalize_of_due hf hs' hunit, intended_of_due hf hs']
      rfl

/-- A module that is neither finalized nor suppressed owes all its artifacts. -/
theorem due_of_due (h : m.finalized = false) (hs : m.suppressed = false) : m.due = m.artifacts := by
  simp [due, h, hs]

end OutputModule

namespace Generator

/-! ## Many modules -/

theorem finalizeAll_dry (ms : List OutputModule) (d : Disk) :
    (finalizeAll true ms : OnDisk _).run d =
      ((ms.map (·.intended true), ms.map (·.spent)), d) := by
  induction ms with
  | nil => rfl
  | cons m ms ih =>
      rw [finalizeAll, OnDisk.run_bind (OutputModule.finalize_dry d), OnDisk.run_bind ih]
      rfl

end Generator

/-- What an outcome lists as delivered. -/
def ModuleOutcome.deliveries : ModuleOutcome → List Delivery
  | .delivered _ results => results
  | _ => []

/-- Modules that are finalized one after the other, each on the disk that those before it leave,
whether or not they failed. -/
inductive Finalizes : List OutputModule → Disk → List ModuleOutcome → Disk → Prop where
  | done (d : Disk) : Finalizes [] d [] d
  | again {m : OutputModule} {ms : List OutputModule} {d d' : Disk} {outcomes : List ModuleOutcome}
      (finalized : m.finalized = true) (rest : Finalizes ms d outcomes d') :
      Finalizes (m :: ms) d (.alreadyFinalized m.name :: outcomes) d'
  | withheld {m : OutputModule} {ms : List OutputModule} {d d' : Disk}
      {outcomes : List ModuleOutcome} (fresh : m.finalized = false)
      (suppressed : m.suppressed = true) (rest : Finalizes ms d outcomes d') :
      Finalizes (m :: ms) d (.suppressed m.name :: outcomes) d'
  | attempted {m : OutputModule} {ms : List OutputModule} {d d₁ d' : Disk}
      {outcomes : List ModuleOutcome} {result : Except PartialDelivery (List Delivery)}
      (fresh : m.finalized = false) (wanted : m.suppressed = false)
      (attempt : Attempt m.artifacts d result d₁) (rest : Finalizes ms d₁ outcomes d') :
      Finalizes (m :: ms) d (m.outcomeOf result :: outcomes) d'

namespace Generator

/-- Modules are finalized in order, and none of them is left out. -/
theorem finalizeAll_run (ms : List OutputModule) (d : Disk) :
    ∃ outcomes d', (finalizeAll false ms : OnDisk _).run d = ((outcomes, ms.map (·.spent)), d') ∧
      Finalizes ms d outcomes d' := by
  induction ms generalizing d with
  | nil => exact ⟨[], d, rfl, .done d⟩
  | cons m ms ih =>
      have hcons : ∀ {outcome : ModuleOutcome} {outcomes : List ModuleOutcome} {d₁ d' : Disk},
          (m.finalize false : OnDisk _).run d = ((outcome, m.spent), d₁) →
          (finalizeAll false ms : OnDisk _).run d₁ = ((outcomes, ms.map (·.spent)), d') →
          (finalizeAll false (m :: ms) : OnDisk _).run d =
            ((outcome :: outcomes, (m :: ms).map (·.spent)), d') := by
        intro outcome outcomes d₁ d' hfirst hrest
        rw [finalizeAll, OnDisk.run_bind hfirst, OnDisk.run_bind hrest]
        rfl
      by_cases h : m.finalized = true
      · obtain ⟨outcomes, d', hrest, hfinalizes⟩ := ih d
        have houtcome : m.intended false = .alreadyFinalized m.name := by
          simp [OutputModule.intended, h]
        have hfirst := OutputModule.finalize_of_finalized h false d
        rw [houtcome] at hfirst
        exact ⟨_, d', hcons hfirst hrest, .again h hfinalizes⟩
      · have hf : m.finalized = false := by simpa using h
        by_cases hs : m.suppressed = true
        · obtain ⟨outcomes, d', hrest, hfinalizes⟩ := ih d
          have houtcome : m.intended false = .suppressed m.name := by
            simp [OutputModule.intended, h, hs]
          have hfirst := OutputModule.finalize_of_suppressed hf hs false d
          rw [houtcome] at hfirst
          exact ⟨_, d', hcons hfirst hrest, .withheld hf hs hfinalizes⟩
        · have hs' : m.suppressed = false := by simpa using hs
          obtain ⟨result, d₁, hunit, hattempt⟩ := deliverUnit_run m.artifacts d
          obtain ⟨outcomes, d', hrest, hfinalizes⟩ := ih d₁
          exact ⟨_, d', hcons (OutputModule.finalize_of_due hf hs' hunit) hrest,
            .attempted hf hs' hattempt hfinalizes⟩

end Generator

/-- Modules leave a trail of some of what is due, in its order, on which everything stands that
their outcomes list, and a trail of all of it unless one fails. -/
theorem Finalizes.exists_trail {ms : List OutputModule} {d d' : Disk}
    {outcomes : List ModuleOutcome} (h : Finalizes ms d outcomes d') :
    ∃ landed, Trail d landed d' ∧ landed.Sublist (ms.flatMap (·.due)) ∧
      (outcomes.flatMap (·.deliveries)).Sublist (landed.map (Artifact.receipt false)) ∧
      ((∀ o ∈ outcomes, o.isFailure = false) →
        outcomes = ms.map (·.intended false) ∧ landed = ms.flatMap (·.due)) := by
  induction h with
  | done d => exact ⟨[], .done d, .slnil, .slnil, fun _ => ⟨rfl, rfl⟩⟩
  | @again m ms d d' outcomes finalized _ ih =>
      obtain ⟨landed, htrail, hsub, hlisted, hall⟩ := ih
      have hdue : m.due = [] := by simp [OutputModule.due, finalized]
      rw [List.flatMap_cons, hdue, List.nil_append]
      refine ⟨landed, htrail, hsub, hlisted, ?_⟩
      intro hok
      obtain ⟨rfl, rfl⟩ := hall (List.forall_mem_cons.mp hok).2
      simp [OutputModule.intended, finalized]
  | @withheld m ms d d' outcomes fresh suppressed _ ih =>
      obtain ⟨landed, htrail, hsub, hlisted, hall⟩ := ih
      have hdue : m.due = [] := by simp [OutputModule.due, suppressed]
      rw [List.flatMap_cons, hdue, List.nil_append]
      refine ⟨landed, htrail, hsub, hlisted, ?_⟩
      intro hok
      obtain ⟨rfl, rfl⟩ := hall (List.forall_mem_cons.mp hok).2
      simp [OutputModule.intended, fresh, suppressed]
  | @attempted m ms d d₁ d' outcomes result fresh wanted attempt _ ih =>
      obtain ⟨first, htrail, hprefix, hresult⟩ := attempt.exists_trail
      obtain ⟨landed, htrail', hsub, hlisted, hall⟩ := ih
      rw [List.flatMap_cons, OutputModule.due_of_due fresh wanted]
      refine ⟨first ++ landed, htrail.append htrail', hprefix.sublist.append hsub, ?_, ?_⟩
      · rw [List.flatMap_cons, List.map_append]
        refine List.Sublist.append ?_ hlisted
        cases result with
        | ok ds =>
            obtain ⟨rfl, rfl⟩ := hresult
            exact .refl _
        | error p => exact List.nil_sublist _
      · intro hok
        rw [List.forall_mem_cons] at hok
        cases result with
        | error p => cases hok.1
        | ok ds =>
            obtain ⟨rfl, rfl⟩ := hresult
            obtain ⟨rfl, rfl⟩ := hall hok.2
            rw [List.map_cons, OutputModule.intended_of_due fresh wanted]
            exact ⟨rfl, rfl⟩

/-! ## Build fragments -/

/-- What an outcome lists as delivered. -/
def FragmentOutcome.delivery? : FragmentOutcome → Option Delivery
  | .delivered result => some result
  | .failed _ => none

namespace Generator

/-- The outcome of a build fragment's delivery. -/
def fragmentOutcome : Except DeliveryFault Delivery → FragmentOutcome
  | .ok result => .delivered result
  | .error fault => .failed fault

/-- The outcome of a build fragment's delivery when nothing goes wrong. -/
def fragmentIntended (dryRun : Bool) (a : Artifact) : FragmentOutcome :=
  .delivered (a.receipt dryRun)

theorem deliverFragments_cons {dryRun : Bool} {a : Artifact} {as : List Artifact}
    {d d₁ d' : Disk} {result : Except DeliveryFault Delivery} {outcomes : List FragmentOutcome}
    (hfirst : (deliverFragment dryRun a : OnDisk _).run d = (result, d₁))
    (hrest : (deliverFragments dryRun as : OnDisk _).run d₁ = (outcomes, d')) :
    (deliverFragments dryRun (a :: as) : OnDisk _).run d =
      (fragmentOutcome result :: outcomes, d') := by
  rw [deliverFragments, OnDisk.run_bind hfirst]
  have hthen : ∀ outcome : FragmentOutcome,
      (deliverFragments dryRun as >>= fun outcomes => pure (outcome :: outcomes) :
        OnDisk _).run d₁ = (outcome :: outcomes, d') :=
    fun outcome => OnDisk.run_bind hrest
  cases result with
  | ok r => exact hthen _
  | error fault => exact hthen _

theorem deliverFragments_dry (as : List Artifact) (d : Disk) :
    (deliverFragments true as : OnDisk _).run d = (as.map (fragmentIntended true), d) := by
  induction as with
  | nil => rfl
  | cons a as ih =>
      have hfirst : (deliverFragment true a : OnDisk _).run d = (.ok a.preview, d) := rfl
      exact deliverFragments_cons hfirst ih

/-- Build fragments that are attempted one after the other, each on the disk that those before it
leave, whether or not they failed. -/
inductive FragmentAttempts : List Artifact → Disk → List FragmentOutcome → Disk → Prop where
  | done (d : Disk) : FragmentAttempts [] d [] d
  | attempted {a : Artifact} {as : List Artifact} {d d₁ d' : Disk}
      {outcomes : List FragmentOutcome} {result : Except PartialDelivery (List Delivery)}
      (attempt : Attempt [a] d result d₁) (rest : FragmentAttempts as d₁ outcomes d') :
      FragmentAttempts (a :: as) d (fragmentOutcome (a.resultOf result) :: outcomes) d'

theorem deliverFragments_run (as : List Artifact) (d : Disk) :
    ∃ outcomes d', (deliverFragments false as : OnDisk _).run d = (outcomes, d') ∧
      FragmentAttempts as d outcomes d' := by
  induction as generalizing d with
  | nil => exact ⟨[], d, rfl, .done d⟩
  | cons a as ih =>
      obtain ⟨result, d₁, hfirst, hattempt⟩ := deliverFragment_run a d
      obtain ⟨outcomes, d', hrest, hattempts⟩ := ih d₁
      exact ⟨_, d', deliverFragments_cons hfirst hrest, .attempted hattempt hattempts⟩

/-- Build fragments leave a trail of some of their own, in their order, on which everything stands
that their outcomes list, and a trail of all of them unless one fails. -/
theorem FragmentAttempts.exists_trail {as : List Artifact} {d d' : Disk}
    {outcomes : List FragmentOutcome} (h : FragmentAttempts as d outcomes d') :
    ∃ landed, Trail d landed d' ∧ landed.Sublist as ∧
      (outcomes.filterMap (·.delivery?)).Sublist (landed.map (Artifact.receipt false)) ∧
      ((∀ fault, FragmentOutcome.failed fault ∉ outcomes) →
        outcomes = as.map (fragmentIntended false) ∧ landed = as) := by
  induction h with
  | done d => exact ⟨[], .done d, .slnil, .slnil, fun _ => ⟨rfl, rfl⟩⟩
  | @attempted a as d d₁ d' outcomes result attempt _ ih =>
      obtain ⟨first, htrail, hprefix, hresult⟩ := attempt.exists_trail
      obtain ⟨landed, htrail', hsub, hlisted, hall⟩ := ih
      refine ⟨first ++ landed, htrail.append htrail', hprefix.sublist.append hsub, ?_, ?_⟩
      · cases result with
        | ok ds =>
            obtain ⟨-, rfl⟩ := hresult
            exact hlisted.cons_cons _
        | error p =>
            rw [List.map_append]
            exact hlisted.trans (List.sublist_append_right _ _)
      · intro hok
        cases result with
        | error p => exact absurd List.mem_cons_self (hok p.fault)
        | ok ds =>
            obtain ⟨-, rfl⟩ := hresult
            obtain ⟨rfl, rfl⟩ := hall fun fault hf => hok fault (List.mem_cons_of_mem _ hf)
            exact ⟨rfl, rfl⟩

/-! ## The whole delivery -/

variable {ε : Type} (g : Generator ε)

/-- The generator once it has delivered. -/
def delivered : Generator ε := { g with modules := g.modules.map (·.spent) }

/-- The build fragments of a delivery, the guest's first, and none if only one module is wanted. -/
def plannedFragments : List Artifact :=
  if g.options.isSuppressing then []
  else [
    ⟨.buildFragment, g.options.guestFragmentPath,
      g.buildFragments.renderGuest g.options.guestDir g.options.fragments⟩,
    ⟨.buildFragment, g.options.hostFragmentPath,
      g.buildFragments.renderHost g.options.outputDir g.options.fragments⟩]

/-- The artifacts of a delivery, in order. -/
def plan : List Artifact := g.modules.flatMap (·.due) ++ g.plannedFragments

/-- The report of a delivery that nothing goes wrong with. -/
def intended (dryRun : Bool) : GenerationReport where
  outcomes := g.modules.map (·.intended dryRun)
  fragments := g.buildFragments
  fragmentOutcomes := g.plannedFragments.map (fragmentIntended dryRun)
  suppressExcept := g.options.suppressExcept

variable {g}

/-- A delivery finalizes the modules first and then delivers what is planned of build fragments. -/
theorem deliver_run {d d₁ d' : Disk} {outcomes : List ModuleOutcome}
    {fragmentOutcomes : List FragmentOutcome}
    (hmodules : (finalizeAll g.options.dryRun g.modules : OnDisk _).run d =
      ((outcomes, g.modules.map (·.spent)), d₁))
    (hfragments : (deliverFragments g.options.dryRun g.plannedFragments : OnDisk _).run d₁ =
      (fragmentOutcomes, d')) :
    (deliver g : OnDisk _).run d =
      ((⟨outcomes, g.buildFragments, fragmentOutcomes, g.options.suppressExcept⟩, g.delivered),
        d') := by
  rw [deliver, OnDisk.run_bind hmodules]
  by_cases h : g.options.isSuppressing = true
  · rw [plannedFragments, if_pos h] at hfragments
    cases hfragments
    simp only [h, if_true]
    rfl
  · rw [plannedFragments, if_neg h] at hfragments
    simp only [h]
    exact OnDisk.run_bind hfragments

/-- A dry delivery reports what is intended and leaves the disk alone. -/
theorem deliver_dry (h : g.options.dryRun = true) (d : Disk) :
    (deliver g : OnDisk _).run d = ((g.intended true, g.delivered), d) := by
  have hmodules := finalizeAll_dry g.modules d
  have hfragments := deliverFragments_dry g.plannedFragments d
  rw [← h] at hmodules hfragments
  rw [deliver_run hmodules hfragments, intended, h]

theorem isSuccess_iff {r : GenerationReport} :
    r.isSuccess = true ↔
      (∀ o ∈ r.outcomes, o.isFailure = false) ∧
        ∀ fault, FragmentOutcome.failed fault ∉ r.fragmentOutcomes := by
  have hmodules : r.failed = [] ↔ ∀ o ∈ r.outcomes, o.isFailure = false := by
    rw [GenerationReport.failed, List.filterMap_eq_nil_iff]
    refine forall_congr' fun o => imp_congr_right fun _ => ?_
    cases o <;> simp [ModuleOutcome.isFailure]
  have hfragments : r.fragmentFaults = [] ↔
      ∀ fault, FragmentOutcome.failed fault ∉ r.fragmentOutcomes := by
    rw [GenerationReport.fragmentFaults, List.filterMap_eq_nil_iff]
    constructor
    · intro h fault hfault
      cases h _ hfault
    · intro h o ho
      cases o with
      | delivered result => rfl
      | failed fault => exact absurd ho (h fault)
  rw [GenerationReport.isSuccess, Bool.and_eq_true, List.isEmpty_iff, List.isEmpty_iff, hmodules,
    hfragments]

/-- Where nothing goes wrong, nothing fails. -/
theorem isSuccess_intended (g : Generator ε) (dryRun : Bool) :
    (g.intended dryRun).isSuccess = true := by
  rw [isSuccess_iff]
  constructor
  · intro o ho
    obtain ⟨m, -, rfl⟩ := List.mem_map.mp ho
    unfold OutputModule.intended
    split
    · rfl
    · split <;> rfl
  · intro fault hfault
    obtain ⟨a, -, ha⟩ := List.mem_map.mp hfault
    cases ha

/-- A real delivery on a disk: its report, and the disk it leaves. -/
structure Delivers (g : Generator ε) (d : Disk) (report : GenerationReport) (d' : Disk) : Prop where
  /-- All modules are attempted, and then what is planned of build fragments. -/
  attempts : ∃ d₁, Finalizes g.modules d report.outcomes d₁ ∧
    FragmentAttempts g.plannedFragments d₁ report.fragmentOutcomes d'
  fragments : report.fragments = g.buildFragments
  suppressExcept : report.suppressExcept = g.options.suppressExcept

theorem exists_delivers (h : g.options.dryRun = false) (d : Disk) :
    ∃ report d', (deliver g : OnDisk _).run d = ((report, g.delivered), d') ∧
      Delivers g d report d' := by
  obtain ⟨outcomes, d₁, hmodules, hfinalizes⟩ := finalizeAll_run g.modules d
  obtain ⟨fragmentOutcomes, d', hfragments, hattempts⟩ := deliverFragments_run g.plannedFragments d₁
  rw [← h] at hmodules hfragments
  exact ⟨_, d', deliver_run hmodules hfragments, ⟨d₁, hfinalizes, hattempts⟩, rfl, rfl⟩

/-- A real delivery leaves a trail of some of the plan, in its order, on which everything stands
that it reports as delivered, and a trail of the whole plan if it succeeds. -/
theorem Delivers.exists_trail {d d' : Disk} {report : GenerationReport}
    (h : Delivers g d report d') :
    ∃ landed, Trail d landed d' ∧ landed.Sublist g.plan ∧
      report.deliveries.Sublist (landed.map (Artifact.receipt false)) ∧
      (report.isSuccess = true → report = g.intended false ∧ landed = g.plan) := by
  obtain ⟨⟨d₁, hfinalizes, hattempts⟩, hfragments, hkeep⟩ := h
  obtain ⟨first, htrail, hsub, hlisted, hall⟩ := hfinalizes.exists_trail
  obtain ⟨landed, htrail', hsub', hlisted', hall'⟩ := hattempts.exists_trail
  refine ⟨first ++ landed, htrail.append htrail', hsub.append hsub', ?_, ?_⟩
  · rw [List.map_append]
    exact hlisted.append hlisted'
  · intro hok
    obtain ⟨hmodule, hfragment⟩ := isSuccess_iff.mp hok
    obtain ⟨houtcomes, rfl⟩ := hall hmodule
    obtain ⟨houtcomes', rfl⟩ := hall' hfragment
    cases report
    simp only at houtcomes houtcomes' hfragments hkeep
    subst houtcomes houtcomes' hfragments hkeep
    exact ⟨rfl, rfl⟩

/-- A real delivery leaves a trail of planned artifacts, and of the whole plan if it succeeds. -/
theorem deliver_real (h : g.options.dryRun = false) (d : Disk) :
    ∃ report d' landed, (deliver g : OnDisk _).run d = ((report, g.delivered), d') ∧
      Trail d landed d' ∧ landed ⊆ g.plan ∧
      (report.isSuccess = true → report = g.intended false ∧ landed = g.plan) := by
  obtain ⟨report, d', hrun, hdelivers⟩ := exists_delivers h d
  obtain ⟨landed, htrail, hsub, -, hall⟩ := hdelivers.exists_trail
  exact ⟨report, d', landed, hrun, htrail, hsub.subset, hall⟩

/-- A generator always gets to the end of its delivery. -/
theorem exists_deliver (g : Generator ε) (d : Disk) :
    ∃ report d', (deliver g : OnDisk _).run d = ((report, g.delivered), d') := by
  by_cases h : g.options.dryRun = true
  · exact ⟨_, d, deliver_dry h d⟩
  · obtain ⟨report, d', -, hrun, -⟩ := deliver_real (by simpa using h) d
    exact ⟨report, d', hrun⟩

/-- The intended report lists the plan, artifact by artifact. -/
theorem deliveries_intended (dryRun : Bool) :
    (g.intended dryRun).deliveries = g.plan.map (Artifact.receipt dryRun) := by
  have hmodules : (g.intended dryRun).moduleDeliveries =
      (g.modules.flatMap (·.due)).map (Artifact.receipt dryRun) := by
    rw [GenerationReport.moduleDeliveries, intended, List.flatMap_map, List.map_flatMap]
    congr 1
    funext m
    unfold OutputModule.intended OutputModule.due
    by_cases hf : m.finalized = true
    · simp [hf]
    · by_cases hs : m.suppressed = true
      · simp [hf, hs]
      · simp [hf, hs]
  have hfragments : (g.intended dryRun).fragmentDeliveries =
      g.plannedFragments.map (Artifact.receipt dryRun) := by
    rw [GenerationReport.fragmentDeliveries, intended, List.filterMap_map,
      ← List.filterMap_eq_map]
    rfl
  rw [GenerationReport.deliveries, hmodules, hfragments, plan, List.map_append]

end Generator

end VulkanWire
