import VulkanWire.Proofs.Command.Session
import VulkanWire.Proofs.Tool.Acceptance

/-!
# Exit codes

What the exit code of a command says about the disk. A generation that breaks
off has not touched any file, and it breaks off only over its configuration, its
schema, the module to keep or a working directory that is gone; no feature and
no schema makes it break off later. One that goes through says with its code
whether every file it was to write is there. A comparison touches no file, and a
configuration file is not replaced unasked.

## Main definitions

* `GenerateEnds` — all ways in which a generation ends.
* `GenerateContract`, `ExitContract` — what exit codes promise.

## Main results

* `runGenerate_ends` — a generation ends in one of these ways.
* `exit_codes_keep_contract` — every command line that is one keeps the promise.
-/

namespace VulkanWire

open Session OnDisk

/-! ## How a generation ends -/

/-- What a generation is made from: a configuration and a schema that could be loaded, and the
command that banners name. -/
structure Prepared (env : EnvOverrides) (schema : Path) (config : Option Path) (args : ArgOverrides)
    (d : Disk) (c : Config) (s : Schema) (commandLine : String) : Prop where
  configured : (resolveConfig config env args : OnDisk _).run d = (.ok c, d)
  loaded : (loadSchema schema : OnDisk _).run d = (.ok s, d)
  named : ∃ workingDir, (Storage.workingDir : OnDisk _).run d = (.ok workingDir, d) ∧
    (regenerationCommand workingDir schema : OnDisk _).run d = (commandLine, d)

/-- All ways in which a generation ends on a disk. -/
inductive GenerateEnds (env : EnvOverrides) (schema : Path) (config : Option Path)
    (args : ArgOverrides) (d : Disk) : Except ToolFault Unit → Disk → Prop where
  /-- There is no configuration. -/
  | unconfigured {fault : ConfigFault}
      (h : (resolveConfig config env args : OnDisk _).run d = (.error fault, d)) :
      GenerateEnds env schema config args d (.error (.config fault)) d
  /-- There is no schema. -/
  | unloaded {c : Config} {fault : LoadFault}
      (hc : (resolveConfig config env args : OnDisk _).run d = (.ok c, d))
      (h : (loadSchema schema : OnDisk _).run d = (.error fault, d)) :
      GenerateEnds env schema config args d (.error (.load fault)) d
  /-- The working directory is gone. -/
  | unplaced {cause : FileFault}
      (h : (Storage.workingDir : OnDisk _).run d = (.error cause, d)) :
      GenerateEnds env schema config args d (.error (.storage cause)) d
  /-- The module to keep is unknown. -/
  | unknown {c : Config} {s : Schema} {commandLine : String} {fault : SetupFault}
      (prepared : Prepared env schema config args d c s commandLine) (h : ¬ c.Accepted) :
      GenerateEnds env schema config args d (.error (.generation (.setup fault))) d
  /-- There is a report. -/
  | reported {c : Config} {s : Schema} {commandLine : String} {report : GenerationReport}
      {d' : Disk} (prepared : Prepared env schema config args d c s commandLine)
      (accepted : c.Accepted)
      (run : (generateAll c s commandLine : OnDisk _).run d = (.ok report, d')) :
      GenerateEnds env schema config args d
        (if report.isSuccess then .ok () else .error (.partialDelivery report.failureCount)) d'

section Generating

variable (colours : Bool) {env : EnvOverrides} {schema : Path} {config : Option Path}
  {args : ArgOverrides} {d d' : Disk} {c : Config} {s : Schema} {commandLine : String}

/-- What a generation does once its configuration and its schema are loaded. -/
def finishGenerate (colours : Bool) (schema : Path) (c : Config) (s : Schema) :
    Session OnDisk Unit := do
  say (Style.cyan.paint colours "Generating modules...")
  let workingDir ← require .storage Storage.workingDir
  let commandLine ← (regenerationCommand workingDir schema : OnDisk String)
  let report ← require .generation (generateAll c s commandLine)
  say (report.consoleText colours)
  if !report.isSuccess then throw (.partialDelivery report.failureCount)

theorem exec_runGenerate (hc : (resolveConfig config env args : OnDisk _).run d = (.ok c, d))
    (hs : (loadSchema schema : OnDisk _).run d = (.ok s, d)) :
    ∃ printed, exec (runGenerate colours env schema config args) [] d =
      exec (finishGenerate colours schema c s) printed d := by
  rw [runGenerate, exec_require_ok hc, exec_say_bind, exec_require_ok hs]
  cases hkeep : c.generation.suppress with
  | none => exact ⟨_, rfl⟩
  | some module => exact ⟨_, rfl⟩

theorem exec_finishGenerate_of_unknown
    (prepared : Prepared env schema config args d c s commandLine) {fault : SetupFault}
    (h : c.generator commandLine = .error fault) (printed : List String) :
    ∃ printed', exec (finishGenerate colours schema c s) printed d =
      ((.error (.generation (.setup fault)), printed'), d) := by
  obtain ⟨workingDir, hdir, hcommand⟩ := prepared.named
  have hrun : (generateAll c s commandLine : OnDisk _).run d = (.error (.setup fault), d) := by
    rw [generateAll, h]
    rfl
  rw [finishGenerate, exec_say_bind, exec_require_ok hdir, exec_monadLift_bind hcommand,
    exec_require_error hrun]
  exact ⟨_, rfl⟩

theorem exec_finishGenerate_of_reported
    (prepared : Prepared env schema config args d c s commandLine) {report : GenerationReport}
    (hrun : (generateAll c s commandLine : OnDisk _).run d = (.ok report, d'))
    (printed : List String) :
    ∃ printed', exec (finishGenerate colours schema c s) printed d =
      ((if report.isSuccess then .ok () else .error (.partialDelivery report.failureCount),
        printed'), d') := by
  obtain ⟨workingDir, hdir, hcommand⟩ := prepared.named
  rw [finishGenerate, exec_say_bind, exec_require_ok hdir, exec_monadLift_bind hcommand,
    exec_require_ok hrun, exec_say_bind]
  cases report.isSuccess with
  | true => exact ⟨_, rfl⟩
  | false => exact ⟨_, rfl⟩

/-- A generation ends in one of these ways, on every disk. -/
theorem runGenerate_ends (env : EnvOverrides) (schema : Path)
    (config : Option Path) (args : ArgOverrides) (d : Disk) :
    ∃ result printed d', exec (runGenerate colours env schema config args) [] d =
        ((result, printed), d') ∧
      GenerateEnds env schema config args d result d' := by
  obtain ⟨resolved, hresolve, hkeep⟩ := looks_resolveConfig config env args d
  cases resolved with
  | error fault => exact ⟨_, _, d, exec_require_error hresolve, .unconfigured hresolve⟩
  | ok c =>
      obtain ⟨loaded, hload, hvalid⟩ := looks_loadSchema schema d
      cases loaded with
      | error fault =>
          have hexec : ∃ printed, exec (runGenerate colours env schema config args) [] d =
              ((.error (.load fault), printed), d) := by
            rw [runGenerate, exec_require_ok hresolve, exec_say_bind, exec_require_error hload]
            exact ⟨_, rfl⟩
          obtain ⟨printed, hexec⟩ := hexec
          exact ⟨_, printed, d, hexec, .unloaded hresolve hload⟩
      | ok s =>
          obtain ⟨printed, hexec⟩ := exec_runGenerate colours hresolve hload
          rw [hexec]
          obtain ⟨dir, hdir, -⟩ := looks_workingDir d
          cases dir with
          | error cause =>
              rw [finishGenerate, exec_say_bind, exec_require_error hdir]
              exact ⟨_, _, d, rfl, .unplaced hdir⟩
          | ok workingDir =>
              obtain ⟨commandLine, hcommand, -⟩ := looks_regenerationCommand workingDir schema d
              have prepared : Prepared env schema config args d c s commandLine :=
                ⟨hresolve, hload, workingDir, hdir, hcommand⟩
              have hne := hkeep c rfl
              by_cases ha : c.Accepted
              · obtain ⟨report, d', hrun, -, -⟩ :=
                  exists_generateAll ha (hvalid s rfl) commandLine d
                obtain ⟨printed', hfinish⟩ :=
                  exec_finishGenerate_of_reported colours prepared hrun printed
                exact ⟨_, printed', d', hfinish, .reported prepared ha hrun⟩
              · obtain ⟨module, -, hfault⟩ := exists_generator_of_not_accepted hne ha commandLine
                obtain ⟨printed', hfinish⟩ :=
                  exec_finishGenerate_of_unknown colours prepared hfault printed
                exact ⟨_, printed', d, hfinish, .unknown prepared ha⟩

end Generating

/-! ## Commands that touch no file -/

section Looking

variable {c : Config} {s : Schema} {commandLine : String} {d : Disk}

/-- A dry generation only looks, whether or not it is accepted. -/
theorem looks_generateAll (h : c.output.dryRun = true) :
    Looks (generateAll c s commandLine : OnDisk _) fun _ => True := by
  intro d
  cases hg : c.generator commandLine with
  | error fault =>
      refine ⟨.error (.setup fault), ?_, trivial⟩
      rw [generateAll, hg]
      rfl
  | ok g =>
      have hsound : c.IsSound commandLine := (Generator.assemble_eq_ok_iff.mp hg).1
      cases hs : s.validate with
      | error fault =>
          refine ⟨.error (.schema fault), ?_, trivial⟩
          rw [generateAll, hg]
          simp only [Generator.run_invalid g hs]
          rfl
      | ok _ =>
          obtain ⟨bound, hrun⟩ := generateAll_run hsound hs
          exact ⟨_, hrun (Generator.deliver_dry (g := c.concluded s commandLine bound) h d), trivial⟩

theorem looks_compareDeliveries (ds : List Delivery) :
    Looks (compareDeliveries ds : OnDisk _) fun _ => True := by
  induction ds with
  | nil => exact looks_pure trivial
  | cons delivery ds ih =>
      cases delivery with
      | written kind path bytes => exact ih
      | shown kind path content =>
          refine looks_bind (looks_readText path) fun read _ => ?_
          cases read with
          | ok actual => exact looks_bind ih fun _ _ => looks_pure trivial
          | error cause =>
              cases cause with
              | missing => exact looks_bind ih fun _ _ => looks_pure trivial
              | _ => exact looks_pure trivial

theorem looks_compareAll : Looks (compareAll c s commandLine : OnDisk _) fun _ => True := by
  refine looks_bind (looks_generateAll rfl) fun result _ => ?_
  cases result with
  | error fault => exact looks_pure trivial
  | ok report =>
      refine looks_bind (looks_compareDeliveries report.deliveries) fun found _ => ?_
      cases found <;> exact looks_pure trivial

/-- A comparison leaves every disk as it is. -/
theorem keeps_runValidate (colours : Bool) (env : EnvOverrides) (schema : Path)
    (config : Option Path) (args : ArgOverrides) :
    Keeps (runValidate colours env schema config args) := by
  refine keeps_bind (keeps_say _) fun _ => ?_
  refine keeps_bind (keeps_require (looks_resolveConfig config env args)) fun c => ?_
  refine keeps_bind (keeps_require (looks_loadSchema schema)) fun s => ?_
  refine keeps_bind (keeps_require looks_workingDir) fun workingDir => ?_
  refine keeps_bind (keeps_monadLift (looks_regenerationCommand workingDir schema))
    fun commandLine => ?_
  refine keeps_bind (keeps_require looks_compareAll) fun found => ?_
  refine keeps_bind (keeps_say _) fun _ => ?_
  cases !found.isUpToDate with
  | true => exact keeps_throw _
  | false => exact keeps_pure ()

/-- A configuration file that is there is not replaced unasked. -/
theorem exec_runInit_of_present (colours : Bool) {output : Path} {place : Place}
    (h : d.stat output = .ok place) :
    ∃ printed, exec (runInit colours output false) [] d =
      ((.error (.validation "Configuration file already exists"), printed), d) := by
  have hpresent : (Storage.present output : OnDisk _).run d = (true, d) := by
    show ((d.stat output).isOk, d) = _
    rw [h]
    rfl
  rw [runInit, exec_monadLift_bind hpresent]
  exact ⟨_, rfl⟩

end Looking

/-! ## What exit codes promise -/

/-- Every artifact of every module that is not suppressed and, if none is, both build fragments
have been written on a disk and are there to be read. -/
def AllWritten (g : Generator StandardEmitter) (d d' : Disk) : Prop :=
  ∃ as, Trail d as d' ∧ (∀ a ∈ as, d'.readText a.path = .ok a.content) ∧
    (∀ m ∈ g.modules, m.suppressed = false → m.artifacts ⊆ as) ∧
    (g.options.suppressExcept = none →
      ⟨.buildFragment, g.options.guestFragmentPath,
        g.buildFragments.renderGuest g.options.guestDir g.options.fragments⟩ ∈ as ∧
      ⟨.buildFragment, g.options.hostFragmentPath,
        g.buildFragments.renderHost g.options.outputDir g.options.fragments⟩ ∈ as)

/-- There is no configuration or no schema, or the module to keep is not in the table. -/
def Rejected (env : EnvOverrides) (schema : Path) (config : Option Path) (args : ArgOverrides)
    (d : Disk) : Prop :=
  (∃ fault, (resolveConfig config env args : OnDisk _).run d = (.error fault, d)) ∨
  (∃ fault, (loadSchema schema : OnDisk _).run d = (.error fault, d)) ∨
  ∃ c module, (resolveConfig config env args : OnDisk _).run d = (.ok c, d) ∧
    c.generation.suppress = some module ∧
    module ∉ (Gfxstream.modules c.layoutSettings).map (·.name)

/-- What the exit code of a generation promises about the disk it leaves. -/
structure GenerateContract (env : EnvOverrides) (schema : Path) (config : Option Path)
    (args : ArgOverrides) (d : Disk) (code : UInt8) (d' : Disk) : Prop where
  codes : code = 0 ∨ code = 1 ∨ code = 2
  untouched : code = 1 → d' = d
  /-- While the working directory is there, a generation breaks off only over its configuration, its
  schema or the module to keep. -/
  broken : (∃ workingDir, (Storage.workingDir : OnDisk _).run d = (.ok workingDir, d)) →
    (code = 1 ↔ Rejected env schema config args d)
  /-- It goes through with failures if it was accepted and a module or build fragment failed. -/
  failed : code = 2 ↔ ∃ c s commandLine report,
    Prepared env schema config args d c s commandLine ∧ c.Accepted ∧
    (generateAll c s commandLine : OnDisk _).run d = (.ok report, d') ∧
    (report.failed ≠ [] ∨ report.fragmentFaults ≠ [])
  /-- Where it is accepted and touches files, everything is attempted. -/
  attempted : ∀ {c s commandLine report}, Prepared env schema config args d c s commandLine →
    c.Accepted → (generateAll c s commandLine : OnDisk _).run d = (.ok report, d') →
    c.output.dryRun = false →
    ∃ bound, Generator.Delivers (c.concluded s commandLine bound) d report d'
  /-- It succeeds if everything is there or, where it touches no files, is as it was. -/
  succeeded : code = 0 → ∃ c s commandLine, Prepared env schema config args d c s commandLine ∧
    c.Accepted ∧ (c.output.dryRun = true → d' = d) ∧
    (c.output.dryRun = false → ∃ bound, AllWritten (c.concluded s commandLine bound) d d')

/-- What the exit code of a command promises about the disk it leaves. -/
def ExitContract (env : EnvOverrides) (d : Disk) (code : UInt8) (d' : Disk) : Command → Prop
  | .generate schema config args => GenerateContract env schema config args d code d'
  | .init output force =>
    force = false → (∃ place, d.stat output = .ok place) → code = 2 ∧ d' = d
  | .validate _ _ _ => d' = d

/-- The exit code for the way in which a session ends. -/
def exitCodeOf : Except ToolFault Unit → UInt8
  | .ok () => 0
  | .error fault => fault.exitCode

theorem runLine_run {colours : Bool} {env : List (String × String)} {words : List String}
    {command : Command} (h : Command.parse words = .ok command) {d d' : Disk}
    {result : Except ToolFault Unit} {printed : List String}
    (hexec : exec (command.run colours (.ofPairs env)) [] d = ((result, printed), d')) :
    ∃ t, (runLine colours env words : OnDisk _).run d = (t, d') ∧ t.exitCode = exitCodeOf result := by
  rw [runLine, h]
  cases result with
  | ok u => exact ⟨_, OnDisk.run_bind hexec, rfl⟩
  | error fault => exact ⟨_, OnDisk.run_bind hexec, rfl⟩

/-! ### The promise is kept -/

section Contract

variable {env : EnvOverrides} {schema : Path} {config : Option Path} {args : ArgOverrides}
  {d d' : Disk} {c c' : Config} {s s' : Schema} {commandLine commandLine' : String}

theorem Prepared.unique (h : Prepared env schema config args d c s commandLine)
    (h' : Prepared env schema config args d c' s' commandLine') :
    c' = c ∧ s' = s ∧ commandLine' = commandLine := by
  obtain ⟨hc, -⟩ := Prod.mk.inj (h.configured.symm.trans h'.configured)
  obtain ⟨hs, -⟩ := Prod.mk.inj (h.loaded.symm.trans h'.loaded)
  obtain ⟨dir, hdir, hcommand⟩ := h.named
  obtain ⟨dir', hdir', hcommand'⟩ := h'.named
  obtain ⟨hdirs, -⟩ := Prod.mk.inj (hdir.symm.trans hdir')
  cases hdirs
  obtain ⟨hcommands, -⟩ := Prod.mk.inj (hcommand.symm.trans hcommand')
  exact ⟨(Except.ok.inj hc).symm, (Except.ok.inj hs).symm, hcommands.symm⟩

theorem isSuccess_eq_false_iff {r : GenerationReport} :
    r.isSuccess = false ↔ r.failed ≠ [] ∨ r.fragmentFaults ≠ [] := by
  rw [GenerationReport.isSuccess, Bool.and_eq_false_iff, List.isEmpty_eq_false_iff,
    List.isEmpty_eq_false_iff]

/-- Where nothing fails, all that is to be written has been written and is there. -/
theorem allWritten_of_isSuccess {bound : List (BoundEmitter StandardEmitter)}
    {report : GenerationReport}
    (h : Generator.Delivers (c.concluded s commandLine bound) d report d')
    (hok : report.isSuccess = true) : AllWritten (c.concluded s commandLine bound) d d' := by
  obtain ⟨landed, htrail, -, -, hall⟩ := h.exists_trail
  obtain ⟨-, rfl⟩ := hall hok
  refine ⟨_, htrail, ?_, ?_, ?_⟩
  · refine htrail.readText ?_
    intro a ha b hb place hpa hpb
    exact content_eq_of_mem_plan ha hb hpa hpb
  · intro m hm hwanted a ha
    have hfresh := Generator.finalized_of_mem_concluded hm
    refine List.mem_append_left _ (List.mem_flatMap.mpr ⟨m, hm, ?_⟩)
    rw [OutputModule.due_of_due hfresh hwanted]
    exact ha
  · intro hall
    have hplanned : ∀ a ∈ (c.concluded s commandLine bound).plannedFragments,
        a ∈ (c.concluded s commandLine bound).plan := fun a ha => List.mem_append_right _ ha
    rw [Generator.plannedFragments, GeneratorOptions.isSuppressing, hall] at hplanned
    exact ⟨hplanned _ List.mem_cons_self, hplanned _ (List.mem_cons_of_mem _ List.mem_cons_self)⟩

/-- An accepted generation is attempted as a whole. -/
theorem exists_delivers_of_prepared {report : GenerationReport}
    (prepared : Prepared env schema config args d c s commandLine) (ha : c.Accepted)
    (hrun : (generateAll c s commandLine : OnDisk _).run d = (.ok report, d')) :
    (c.output.dryRun = true → report.isSuccess = true ∧ d' = d) ∧
      (c.output.dryRun = false →
        ∃ bound, Generator.Delivers (c.concluded s commandLine bound) d report d') := by
  obtain ⟨resolved, hresolve, hkeep⟩ := looks_resolveConfig config env args d
  obtain ⟨loaded, hload, hvalid⟩ := looks_loadSchema schema d
  obtain ⟨hc, -⟩ := Prod.mk.inj (hresolve.symm.trans prepared.configured)
  obtain ⟨hs, -⟩ := Prod.mk.inj (hload.symm.trans prepared.loaded)
  obtain ⟨report', d'', hrun', hends⟩ :=
    exists_generateAll ha (hvalid s hs) commandLine d
  obtain ⟨hreport, rfl⟩ := Prod.mk.inj (hrun'.symm.trans hrun)
  cases hreport
  exact hends

theorem exists_of_not_accepted (h : ¬ c.Accepted) :
    ∃ module, c.generation.suppress = some module ∧
      module ∉ (Gfxstream.modules c.layoutSettings).map (·.name) := by
  rw [Config.Accepted, Classical.not_forall] at h
  obtain ⟨module, h⟩ := h
  exact ⟨module, Classical.not_imp.mp h⟩

/-- What is prepared and accepted is not rejected. -/
theorem not_rejected (prepared : Prepared env schema config args d c s commandLine)
    (ha : c.Accepted) : ¬ Rejected env schema config args d := by
  rintro (⟨fault, h⟩ | ⟨fault, h⟩ | ⟨c', module, hc, hkeep, hout⟩)
  · cases (Prod.mk.inj (h.symm.trans prepared.configured)).1
  · cases (Prod.mk.inj (h.symm.trans prepared.loaded)).1
  · obtain ⟨hsame, -⟩ := Prod.mk.inj (hc.symm.trans prepared.configured)
    cases hsame
    exact hout (ha module hkeep)

/-- A generation that breaks off keeps the promise if it was not accepted. -/
theorem contract_of_broken
    (hrejected : (∃ workingDir, (Storage.workingDir : OnDisk _).run d = (.ok workingDir, d)) →
      Rejected env schema config args d)
    (hnone : ∀ {c s commandLine}, Prepared env schema config args d c s commandLine →
      ¬ c.Accepted) : GenerateContract env schema config args d 1 d where
  codes := .inr (.inl rfl)
  untouched _ := rfl
  broken hdir := ⟨fun _ => hrejected hdir, fun _ => rfl⟩
  failed := by
    constructor
    · intro h
      cases h
    · rintro ⟨c, s, commandLine, report, prepared, ha, -, -⟩
      exact absurd ha (hnone prepared)
  attempted prepared ha hrun := (exists_delivers_of_prepared prepared ha hrun).2
  succeeded h := by cases h

/-- A generation with a report keeps the promise. -/
theorem contract_of_reported {report : GenerationReport}
    (prepared : Prepared env schema config args d c s commandLine) (ha : c.Accepted)
    (hrun : (generateAll c s commandLine : OnDisk _).run d = (.ok report, d')) :
    GenerateContract env schema config args d (if report.isSuccess then 0 else 2) d' := by
  obtain ⟨hdry, hwet⟩ := exists_delivers_of_prepared prepared ha hrun
  have hone : (if report.isSuccess then 0 else 2 : UInt8) ≠ 1 := by
    cases report.isSuccess <;> decide
  exact {
    codes := by
      cases report.isSuccess with
      | true => exact .inl rfl
      | false => exact .inr (.inr rfl)
    untouched := fun h => absurd h hone
    broken := fun _ => ⟨fun h => absurd h hone, fun h => absurd h (not_rejected prepared ha)⟩
    failed := by
      constructor
      · intro h
        refine ⟨c, s, commandLine, report, prepared, ha, hrun, isSuccess_eq_false_iff.mp ?_⟩
        cases hok : report.isSuccess with
        | false => rfl
        | true =>
            rw [hok] at h
            cases h
      · rintro ⟨c', s', commandLine', report', prepared', -, hrun', hfailed⟩
        obtain ⟨rfl, rfl, rfl⟩ := prepared.unique prepared'
        obtain ⟨hsame, -⟩ := Prod.mk.inj (hrun.symm.trans hrun')
        cases hsame
        rw [isSuccess_eq_false_iff.mpr hfailed]
        rfl
    attempted := fun prepared ha hrun => (exists_delivers_of_prepared prepared ha hrun).2
    succeeded := by
      intro h
      have hok : report.isSuccess = true := by
        cases hok : report.isSuccess with
        | true => rfl
        | false =>
            rw [hok] at h
            cases h
      refine ⟨c, s, commandLine, prepared, ha, fun htouch => (hdry htouch).2, fun htouch => ?_⟩
      obtain ⟨bound, hdelivers⟩ := hwet htouch
      exact ⟨bound, allWritten_of_isSuccess hdelivers hok⟩ }

/-- However a generation ends, it keeps the promise of its exit code. -/
theorem GenerateEnds.contract {result : Except ToolFault Unit}
    (h : GenerateEnds env schema config args d result d') :
    GenerateContract env schema config args d (exitCodeOf result) d' := by
  cases h with
  | unconfigured h =>
      refine contract_of_broken (fun _ => .inl ⟨_, h⟩) fun prepared => ?_
      cases (Prod.mk.inj (h.symm.trans prepared.configured)).1
  | unloaded hc h =>
      refine contract_of_broken (fun _ => .inr (.inl ⟨_, h⟩)) fun prepared => ?_
      cases (Prod.mk.inj (h.symm.trans prepared.loaded)).1
  | unplaced h =>
      refine contract_of_broken ?_ fun prepared => ?_
      · rintro ⟨dir, hdir⟩
        cases (Prod.mk.inj (h.symm.trans hdir)).1
      · obtain ⟨dir, hdir, -⟩ := prepared.named
        cases (Prod.mk.inj (h.symm.trans hdir)).1
  | unknown prepared h =>
      obtain ⟨module, hkeep, hout⟩ := exists_of_not_accepted h
      refine contract_of_broken
        (fun _ => .inr (.inr ⟨_, module, prepared.configured, hkeep, hout⟩)) fun prepared' => ?_
      obtain ⟨rfl, -, -⟩ := prepared.unique prepared'
      exact h
  | reported prepared accepted run =>
      have hcontract := contract_of_reported prepared accepted run
      revert hcontract
      split <;> exact id

end Contract

/-- Every command line that the tool accepts keeps the promise of its exit code, in every environment
and on every disk, and no feature that is added to the build's gate makes a restriction of it
fail. -/
theorem exit_codes_keep_contract {words : List String} {command : Command}
    (h : Command.parse words = .ok command) (colours : Bool) (env : List (String × String)) :
    (∀ d, ∃ t d', (runLine colours env words : OnDisk _).run d = (t, d') ∧
      ExitContract (.ofPairs env) d t.exitCode d' command) ∧
    ∀ extraFeatures, Gfxstream.gate? extraFeatures = .ok (Gfxstream.gate extraFeatures) := by
  refine ⟨fun d => ?_, Gfxstream.gate?_eq⟩
  cases command with
  | generate schema config args =>
      obtain ⟨result, printed, d', hexec, hends⟩ :=
        runGenerate_ends colours (.ofPairs env) schema config args d
      obtain ⟨t, hrun, hcode⟩ := runLine_run h hexec
      refine ⟨t, d', hrun, ?_⟩
      rw [hcode]
      exact hends.contract
  | init output force =>
      by_cases hthere : force = false ∧ ∃ place, d.stat output = .ok place
      · obtain ⟨rfl, place, hplace⟩ := hthere
        obtain ⟨printed, hexec⟩ := exec_runInit_of_present colours hplace
        obtain ⟨t, hrun, hcode⟩ := runLine_run h hexec
        exact ⟨t, d, hrun, fun _ _ => ⟨hcode, rfl⟩⟩
      · exact ⟨_, _, rfl, fun hforce hplace => absurd ⟨hforce, hplace⟩ hthere⟩
  | validate schema config args =>
      obtain ⟨result, printed, hexec⟩ :=
        keeps_runValidate colours (.ofPairs env) schema config args [] d
      obtain ⟨t, hrun, -⟩ := runLine_run h hexec
      exact ⟨t, d, hrun, rfl⟩

/-- A generation with an added feature, on any disk. -/
theorem exit_codes_keep_contract_sample :
    (∀ d, ∃ t d', (runLine false [] ["generate", "--schema", "vk.json", "--feature", "VK_EXT_more"] :
        OnDisk _).run d = (t, d') ∧
      ExitContract (.ofPairs []) d t.exitCode d'
        (.generate "vk.json" none { extraFeatures := ["VK_EXT_more"] })) ∧
    ∀ extraFeatures, Gfxstream.gate? extraFeatures = .ok (Gfxstream.gate extraFeatures) :=
  exit_codes_keep_contract rfl false []

end VulkanWire
