import Mathlib.Data.List.Basic
import Mathlib.Data.List.Induction
import VulkanWire.Proofs.Generator.Delivery

/-!
# Histories of a module

A module is operated from outside: text is appended to its files, guards are
opened and closed, it is suppressed and released, and it is finalized, in any
order and any number of times. What it has become after a history of such
operations depends on the history alone, whatever is delivered to: it holds the
texts that were addressed to it while it took any, and the first finalization is
the only one that can deliver.

## Main definitions

* `Operation` — what can be done to a module.
* `kept` — the texts of a history that a module takes.
* `OutputModule.performAll` — a module through a history.

## Main results

* `OutputModule.reached` — what a module is after a history.
* `OutputModule.performAll_ofSpec` — what it answers, and what it delivers.
-/

namespace VulkanWire

/-- What can be done to a module. -/
inductive Operation where
  | appendHeader (text : String)
  | appendImplementation (text : String)
  | openGuard (feature : String)
  | closeGuard
  | setSuppressed (value : Bool)
  | finalize (dryRun : Bool)
deriving DecidableEq, Repr

namespace Operation

/-- The text that an operation addresses to a module, in one of its files or in both. -/
def text? (guarded : Bool) : Operation → Option Emission
  | appendHeader text => some (.inHeader text)
  | appendImplementation text => some (.inImplementation text)
  | openGuard feature =>
    if guarded then some ⟨s!"#ifdef {feature}\n", s!"#ifdef {feature}\n"⟩ else none
  | closeGuard =>
    if guarded then some ⟨"#endif\n", "#endif\n"⟩ else none
  | setSuppressed _ => none
  | finalize _ => none

/-- What an operation switches suppression to. -/
def switch? : Operation → Option Bool
  | setSuppressed value => some value
  | _ => none

/-- How an operation finalizes, if it does. -/
def dryRun? : Operation → Option Bool
  | finalize dryRun => some dryRun
  | _ => none

end Operation

/-! ## Histories -/

/-- Whether a module is suppressed after a history: the last switch decides. -/
def suppressedAfter (ops : List Operation) : Bool :=
  (ops.filterMap Operation.switch?).getLast?.getD false

/-- Whether a module is finalized after a history. -/
def finalizedAfter (ops : List Operation) : Bool := ops.any (·.dryRun?.isSome)

/-- The texts of a history that a module takes: those addressed to it when it was neither suppressed
nor finalized by what came before. -/
def kept (guarded : Bool) (ops : List Operation) : List Emission :=
  ops.zipIdx.filterMap fun p =>
    if suppressedAfter (ops.take p.2) || finalizedAfter (ops.take p.2) then none
    else p.1.text? guarded

/-- The operations before the first finalization. -/
def untilFinalized (ops : List Operation) : List Operation := ops.takeWhile (·.dryRun?.isNone)

section Histories

variable (guarded : Bool) (ops : List Operation) (op : Operation)

theorem suppressedAfter_append_singleton :
    suppressedAfter (ops ++ [op]) = op.switch?.getD (suppressedAfter ops) := by
  rw [suppressedAfter, List.filterMap_append]
  cases hswitch : op.switch? with
  | none =>
      rw [List.filterMap_cons_none hswitch, List.filterMap_nil, List.append_nil]
      rfl
  | some value =>
      rw [List.filterMap_cons_some hswitch, List.filterMap_nil, List.getLast?_concat]
      rfl

theorem finalizedAfter_append (ops' : List Operation) :
    finalizedAfter (ops ++ ops') = (finalizedAfter ops || finalizedAfter ops') :=
  List.any_append

/-- One more operation adds its text if the module takes any by then. -/
theorem kept_append_singleton :
    kept guarded (ops ++ [op]) = kept guarded ops ++
      (if suppressedAfter ops || finalizedAfter ops then none else op.text? guarded).toList := by
  rw [kept, List.zipIdx_append, List.filterMap_append]
  congr 1
  · refine List.filterMap_congr ?_
    intro p hp
    have hlt := List.snd_lt_of_mem_zipIdx hp
    rw [List.take_append_of_le_length (by omega)]
  · have hbefore : (ops ++ [op]).take ops.length = ops := List.take_left
    rw [List.zipIdx_cons, List.zipIdx_nil, Nat.zero_add, List.filterMap_cons, hbefore]
    split
    · rename_i hnone
      rw [hnone]
      rfl
    · rename_i hsome
      rw [hsome]
      rfl

/-- After the first finalization nothing is kept. -/
theorem kept_finalized (dryRun : Bool) (after : List Operation) :
    kept guarded (ops ++ .finalize dryRun :: after) = kept guarded ops := by
  induction after using List.reverseRecOn with
  | nil =>
      rw [kept_append_singleton]
      split <;> exact List.append_nil _
  | append_singleton after op ih =>
      have hfinalized : finalizedAfter (ops ++ .finalize dryRun :: after) = true := by
        rw [finalizedAfter_append]
        exact Bool.or_true _
      rw [← List.cons_append, ← List.append_assoc, kept_append_singleton, ih, hfinalized,
        Bool.or_true, if_pos rfl]
      exact List.append_nil _

end Histories

/-! ## A module through a history -/

namespace OutputModule

/-- The module after an operation. -/
def changed (m : OutputModule) : Operation → OutputModule
  | .appendHeader text => m.take (.inHeader text)
  | .appendImplementation text => m.take (.inImplementation text)
  | .openGuard feature => m.openGuard feature
  | .closeGuard => m.closeGuard
  | .setSuppressed value => { m with suppressed := value }
  | .finalize _ => m.spent

section Performing

variable {μ : Type → Type} [Monad μ] [Storage μ]

/-- Performs an operation; only a finalization is answered. -/
def perform (m : OutputModule) : Operation → μ (Option ModuleOutcome × OutputModule)
  | .finalize dryRun => do
    let (outcome, m) ← m.finalize dryRun
    pure (some outcome, m)
  | op => pure (none, m.changed op)

/-- Performs operations one after the other and collects the answers. -/
def performAll (m : OutputModule) : List Operation → μ (List ModuleOutcome × OutputModule)
  | [] => pure ([], m)
  | op :: ops => do
    let (answer, m) ← m.perform op
    let (answers, m) ← m.performAll ops
    pure (answer.toList ++ answers, m)

/-- The outcome of a finalization. -/
def finalization (m : OutputModule) (dryRun : Bool) : μ ModuleOutcome :=
  if m.finalized then pure (.alreadyFinalized m.name)
  else if m.suppressed then pure (.suppressed m.name)
  else do
    let result ← deliverUnit dryRun m.artifacts
    pure (m.outcomeOf result)

end Performing

/-! ### The module after an operation -/

/-- What becomes of a module by an operation: it takes the text that is addressed to it, switches
what is switched, and is finalized if that is done. -/
structure Changes (m : OutputModule) (op : Operation) (m' : OutputModule) : Prop where
  spec : m'.spec = m.spec
  directory : m'.directory = m.directory
  preambles : m'.preambles = m.preambles
  text : m'.text = m.text ++
    .concat (if m.suppressed || m.finalized then none else op.text? m.usesGuards).toList
  suppressed : m'.suppressed = op.switch?.getD m.suppressed
  finalized : m'.finalized = (m.finalized || op.dryRun?.isSome)

section Changing

variable {m : OutputModule} {op : Operation} {e : Emission}

theorem Changes.take (htext : op.text? m.usesGuards = some e) (hswitch : op.switch? = none)
    (hdry : op.dryRun? = none) : Changes m op (m.take e) where
  spec := spec_take m e
  directory := by
    unfold OutputModule.take
    split <;> rfl
  preambles := preambles_take m e
  text := by
    have haccepts : m.acceptsText = !(m.suppressed || m.finalized) := (Bool.not_or ..).symm
    cases hclosed : m.suppressed || m.finalized with
    | false =>
        rw [hclosed] at haccepts
        rw [text_take_of_accepts haccepts, if_neg Bool.false_ne_true, htext, Option.toList_some,
          Emission.concat_cons, Emission.concat_nil, Emission.append_silent]
    | true =>
        rw [hclosed] at haccepts
        rw [take_of_rejects haccepts, if_pos rfl, Option.toList_none, Emission.concat_nil,
          Emission.append_silent]
  suppressed := by rw [suppressed_take, hswitch, Option.getD_none]
  finalized := by rw [finalized_take, hdry, Option.isSome_none, Bool.or_false]

theorem Changes.silent {m' : OutputModule} (htext : op.text? m.usesGuards = none)
    (hsame : m' = { m with
      suppressed := op.switch?.getD m.suppressed
      finalized := m.finalized || op.dryRun?.isSome }) : Changes m op m' where
  spec := by rw [hsame]
  directory := by rw [hsame]
  preambles := by rw [hsame]
  text := by
    rw [htext, ite_self, Option.toList_none, Emission.concat_nil, Emission.append_silent, hsame]
    rfl
  suppressed := by rw [hsame]
  finalized := by rw [hsame]

theorem changes (m : OutputModule) (op : Operation) : Changes m op (m.changed op) := by
  have hnothing : m = { m with suppressed := m.suppressed, finalized := m.finalized || false } := by
    rw [Bool.or_false]
  cases op with
  | appendHeader text => exact .take rfl rfl rfl
  | appendImplementation text => exact .take rfl rfl rfl
  | openGuard feature =>
      rw [changed, openGuard]
      split
      · rename_i hguards
        exact .take (if_pos hguards) rfl rfl
      · rename_i hguards
        exact .silent (if_neg hguards) hnothing
  | closeGuard =>
      rw [changed, closeGuard]
      split
      · rename_i hguards
        exact .take (if_pos hguards) rfl rfl
      · rename_i hguards
        exact .silent (if_neg hguards) hnothing
  | setSuppressed value =>
      exact .silent rfl (by simp [changed, Operation.switch?, Operation.dryRun?])
  | finalize dryRun =>
      exact .silent rfl (by simp [changed, Operation.switch?, Operation.dryRun?, spent])

end Changing

/-! ### The module after a history -/

/-- What a declared module is after a history. -/
structure Reached (spec : ModuleSpec) (directory : Path) (templates : PreambleTemplates)
    (ops : List Operation) (m : OutputModule) : Prop where
  declared : m.spec = spec
  located : m.directory = directory
  preambles : m.preambles = .ofSpec spec templates
  text : m.text = .concat (kept (!spec.suppressFeatureGuards) ops)
  suppressed : m.suppressed = suppressedAfter ops
  finalized : m.finalized = finalizedAfter ops

theorem reached (spec : ModuleSpec) (directory : Path) (templates : PreambleTemplates)
    (ops : List Operation) :
    Reached spec directory templates ops (ops.foldl changed (ofSpec spec directory templates)) := by
  induction ops using List.reverseRecOn with
  | nil => exact ⟨rfl, rfl, rfl, Emission.concat_nil.symm, rfl, rfl⟩
  | append_singleton ops op ih =>
      rw [List.foldl_append, List.foldl_cons, List.foldl_nil]
      generalize ops.foldl changed (ofSpec spec directory templates) = m at ih ⊢
      obtain ⟨rfl, rfl, hpreambles, htext, hsuppressed, hfinalized⟩ := ih
      have hstep := m.changes op
      refine ⟨hstep.spec, hstep.directory, hstep.preambles.trans hpreambles, ?_, ?_, ?_⟩
      · rw [hstep.text, htext, hsuppressed, hfinalized, kept_append_singleton,
          Emission.concat_append]
        rfl
      · rw [hstep.suppressed, hsuppressed, suppressedAfter_append_singleton]
      · rw [hstep.finalized, hfinalized, finalizedAfter_append]
        exact congrArg _ (Bool.or_false _).symm

/-! ### What a history answers -/

section Answering

variable {μ : Type → Type} [Monad μ] [LawfulMonad μ] [Storage μ] {m : OutputModule}

/-- A finalization leaves a finalized module, whatever is delivered. -/
theorem finalize_eq (m : OutputModule) (dryRun : Bool) :
    (m.finalize dryRun : μ _) = (do
      let outcome ← m.finalization dryRun
      pure (outcome, m.spent)) := by
  rw [finalize, finalization]
  split
  · rename_i hfinalized
    rw [pure_bind, spent_of_finalized hfinalized]
  · split
    · rw [pure_bind]
      rfl
    · rw [bind_assoc]
      refine bind_congr ?_
      intro result
      rw [pure_bind]
      cases result <;> rfl

theorem performAll_cons_quiet {op : Operation} (h : op.dryRun? = none) (ops : List Operation) :
    (m.performAll (op :: ops) : μ _) = (m.changed op).performAll ops := by
  have hperform : (m.perform op : μ _) = pure (none, m.changed op) := by
    cases op with
    | finalize dryRun => cases h
    | _ => rfl
  rw [performAll, hperform, pure_bind]
  exact bind_pure _

theorem performAll_cons_finalize (dryRun : Bool) (ops : List Operation) :
    (m.performAll (.finalize dryRun :: ops) : μ _) = (do
      let outcome ← m.finalization dryRun
      let (answers, m) ← m.spent.performAll ops
      pure (outcome :: answers, m)) := by
  rw [performAll, perform, finalize_eq]
  simp only [bind_assoc, pure_bind]
  rfl

/-- Until a module is finalized, there is nothing to answer. -/
theorem performAll_append_quiet {before : List Operation} (h : ∀ op ∈ before, op.dryRun? = none)
    (ops : List Operation) :
    (m.performAll (before ++ ops) : μ _) = (before.foldl changed m).performAll ops := by
  induction before generalizing m with
  | nil => rfl
  | cons op before ih =>
      rw [List.forall_mem_cons] at h
      rw [List.cons_append, performAll_cons_quiet h.1, ih h.2, List.foldl_cons]

/-- A finalized module delivers nothing and answers every finalization alike. -/
theorem performAll_of_finalized (h : m.finalized = true) (ops : List Operation) :
    (m.performAll ops : μ _) =
      pure ((ops.filterMap Operation.dryRun?).map fun _ => .alreadyFinalized m.name,
        ops.foldl changed m) := by
  induction ops generalizing m with
  | nil => rfl
  | cons op ops ih =>
      have hstep := m.changes op
      have hfinalized : (m.changed op).finalized = true := by rw [hstep.finalized, h, Bool.true_or]
      have hname : (m.changed op).name = m.name := by rw [name, hstep.spec]; rfl
      have hrest := ih hfinalized
      rw [hname] at hrest
      cases op with
      | finalize dryRun =>
          have hspent : (m.spent.performAll ops : μ _) = _ := hrest
          rw [performAll_cons_finalize, finalization, if_pos h, pure_bind, hspent, pure_bind]
          rfl
      | _ =>
          rw [performAll_cons_quiet rfl, hrest]
          rfl

end Answering

/-! ### What a history delivers -/

/-- The files of a declared module with a text: a header unless it has an implementation only, and
an implementation unless it has a header only, each between its preamble and its postamble. -/
def artifactsOf (spec : ModuleSpec) (directory : Path) (templates : PreambleTemplates)
    (text : Emission) : List Artifact :=
  let preambles := Preambles.ofSpec spec templates
  (if spec.implOnly then []
    else [⟨.header, directory.join ⟨spec.basename ++ ".h"⟩,
      preambles.headerPreamble ++ text.header ++ preambles.headerPostamble⟩]) ++
  if spec.headerOnly then []
    else [⟨.implementation, directory.join ⟨spec.basename ++ ".cpp"⟩,
      preambles.implPreamble ++ text.implementation ++ preambles.implPostamble⟩]

section Delivering

variable {spec : ModuleSpec} {directory : Path} {templates : PreambleTemplates}
  {ops : List Operation} {m : OutputModule}

theorem Reached.artifacts (h : Reached spec directory templates ops m) :
    m.artifacts = artifactsOf spec directory templates
      (.concat (kept (!spec.suppressFeatureGuards) ops)) := by
  obtain ⟨rfl, rfl, hpreambles, htext, -, -⟩ := h
  rw [← htext, artifactsOf, ← hpreambles]
  rfl

theorem Reached.name (h : Reached spec directory templates ops m) : m.name = spec.name :=
  congrArg ModuleSpec.name h.declared

theorem outcomeOf_congr {m m' : OutputModule} (h : m.name = m'.name) :
    m.outcomeOf = m'.outcomeOf := by
  funext result
  cases result with
  | ok results => rw [outcomeOf, outcomeOf, h]
  | error p => rw [outcomeOf, outcomeOf, h]

/-- A module that is not finalized yet delivers its files as a unit, unless it is suppressed. -/
theorem Reached.finalization {μ : Type → Type} [Monad μ] [Storage μ]
    (h : Reached spec directory templates ops m) (hopen : finalizedAfter ops = false)
    (dryRun : Bool) :
    (m.finalization dryRun : μ _) =
      if suppressedAfter ops then pure (.suppressed spec.name)
      else (do
        let result ← deliverUnit dryRun (artifactsOf spec directory templates
          (.concat (kept (!spec.suppressFeatureGuards) ops)))
        pure (m.outcomeOf result)) := by
  rw [OutputModule.finalization, h.finalized, hopen, h.suppressed, h.artifacts, h.name,
    if_neg Bool.false_ne_true]

/-- A module is listed in the build by its implementation file, while it is not suppressed. -/
theorem buildSource?_eq (m : OutputModule) :
    m.buildSource? =
      if m.suppressed then none
      else (m.artifacts.find? (·.kind = .implementation)).map fun a =>
        ⟨m.spec.role, m.spec.name, a.path⟩ := by
  rw [buildSource?, artifacts]
  cases m.suppressed with
  | true => rfl
  | false =>
      cases m.spec.headerOnly with
      | true => cases m.spec.implOnly <;> rfl
      | false => cases m.spec.implOnly <;> rfl

/-- A history has no finalization, or its first one stands behind operations that are none. -/
theorem untilFinalized_split (ops : List Operation) :
    (∀ op ∈ untilFinalized ops, op.dryRun? = none) ∧
      (untilFinalized ops = ops ∨
        ∃ dryRun after, ops = untilFinalized ops ++ .finalize dryRun :: after) := by
  induction ops with
  | nil => exact ⟨by simp [untilFinalized], .inl rfl⟩
  | cons op ops ih =>
      obtain ⟨hquiet, hsplit⟩ := ih
      cases hdry : op.dryRun? with
      | some dryRun =>
          have hnone : untilFinalized (op :: ops) = [] :=
            List.takeWhile_cons_of_neg (by simp [hdry])
          cases op with
          | finalize dryRun =>
              rw [hnone]
              exact ⟨by simp, .inr ⟨dryRun, ops, rfl⟩⟩
          | _ => cases hdry
      | none =>
          have hmore : untilFinalized (op :: ops) = op :: untilFinalized ops :=
            List.takeWhile_cons_of_pos (by simp [hdry])
          rw [hmore]
          refine ⟨List.forall_mem_cons.mpr ⟨hdry, hquiet⟩, ?_⟩
          rcases hsplit with hall | ⟨dryRun, after, hsplit⟩
          · exact .inl (congrArg _ hall)
          · exact .inr ⟨dryRun, after, congrArg (op :: ·) hsplit⟩

theorem filterMap_dryRun?_split {before after : List Operation} {dryRun : Bool}
    (h : ∀ op ∈ before, op.dryRun? = none) :
    (before ++ .finalize dryRun :: after).filterMap Operation.dryRun? =
      dryRun :: after.filterMap Operation.dryRun? := by
  rw [List.filterMap_append, List.filterMap_eq_nil_iff.mpr h]
  rfl

/-- Through any history, in any monad that files can be delivered in, a module answers to
finalizations only. The first one delivers the files that the module has by then as a unit, unless
the module is suppressed; those after it deliver nothing. The module itself depends on the history
alone: it has the texts that it took, none of them since the first finalization, its files are made
of them, and while it is not suppressed its implementation file is listed in the build. -/
theorem performAll_ofSpec {μ : Type → Type} [Monad μ] [LawfulMonad μ] [Storage μ]
    (spec : ModuleSpec) (directory : Path) (templates : PreambleTemplates) (ops : List Operation) :
    ∃ m : OutputModule,
      ((ofSpec spec directory templates).performAll ops : μ _) =
        (match ops.filterMap Operation.dryRun? with
        | [] => pure ([], m)
        | dryRun :: later => do
          let first ←
            (if suppressedAfter (untilFinalized ops) then pure (.suppressed spec.name)
            else (do
              let result ← deliverUnit dryRun (artifactsOf spec directory templates
                (.concat (kept (!spec.suppressFeatureGuards) (untilFinalized ops))))
              pure (m.outcomeOf result)))
          pure (first :: later.map fun _ => .alreadyFinalized spec.name, m)) ∧
      Reached spec directory templates ops m ∧
      kept (!spec.suppressFeatureGuards) ops =
        kept (!spec.suppressFeatureGuards) (untilFinalized ops) ∧
      m.artifacts = artifactsOf spec directory templates
        (.concat (kept (!spec.suppressFeatureGuards) ops)) ∧
      m.buildSource? =
        if suppressedAfter ops then none
        else (m.artifacts.find? (·.kind = .implementation)).map fun a =>
          ⟨spec.role, spec.name, a.path⟩ := by
  have hreached := reached spec directory templates ops
  have hentry := (ops.foldl changed (ofSpec spec directory templates)).buildSource?_eq
  rw [hreached.suppressed, hreached.declared] at hentry
  obtain ⟨hquiet, hsplit⟩ := untilFinalized_split ops
  rcases hsplit with hall | ⟨dryRun, after, hsplit⟩
  · refine ⟨_, ?_, hreached, by rw [hall], hreached.artifacts, hentry⟩
    have hnone : ops.filterMap Operation.dryRun? = [] := by
      rw [List.filterMap_eq_nil_iff, ← hall]
      exact hquiet
    have hrun := performAll_append_quiet (m := ofSpec spec directory templates) (μ := μ) hquiet []
    rw [hall, List.append_nil] at hrun
    rw [hrun, hnone]
    rfl
  · generalize untilFinalized ops = before at *
    subst hsplit
    refine ⟨_, ?_, hreached, kept_finalized _ before dryRun after, hreached.artifacts, hentry⟩
    rw [filterMap_dryRun?_split hquiet, performAll_append_quiet hquiet, performAll_cons_finalize]
    have hfirst := reached spec directory templates before
    have hlast : (before ++ .finalize dryRun :: after).foldl changed
        (ofSpec spec directory templates) =
          after.foldl changed (before.foldl changed (ofSpec spec directory templates)).spent := by
      rw [List.foldl_append, List.foldl_cons]
      rfl
    rw [hlast] at hreached ⊢
    generalize before.foldl changed (ofSpec spec directory templates) = m at *
    have hopen : finalizedAfter before = false := by simpa [finalizedAfter] using hquiet
    have hname : m.spent.name = spec.name := hfirst.name
    rw [hfirst.finalization hopen, performAll_of_finalized rfl, hname,
      outcomeOf_congr (hreached.name.trans hfirst.name.symm)]
    simp only [pure_bind]

/-- A module that is suppressed for a while, finalized, and operated on further. -/
def suppressedForAWhile : List Operation := [
  .openGuard "VK_VERSION_1_0", .appendHeader "void a();\n", .setSuppressed true,
  .appendHeader "void b();\n", .setSuppressed false, .closeGuard, .finalize true,
  .appendImplementation "void c() \x7b\x7d\n", .setSuppressed true, .finalize false]

/-- It shows what it had taken by its first finalization, delivers nothing later, and is left out of
the build while it is suppressed. -/
theorem performAll_ofSpec_sample :
    ∃ m : OutputModule,
      ((ofSpec (.ofBasename "VkDecoder" .host) "out" .default).performAll suppressedForAWhile :
          OnDisk _).run ⟨[], []⟩ =
        (([.delivered "VkDecoder" (m.artifacts.map Artifact.preview),
          .alreadyFinalized "VkDecoder"], m), ⟨[], []⟩) ∧
      m.text = ⟨"#ifdef VK_VERSION_1_0\nvoid a();\n#endif\n", "#ifdef VK_VERSION_1_0\n#endif\n"⟩ ∧
      m.artifacts.map (·.path) = ["out/VkDecoder.h", "out/VkDecoder.cpp"] ∧
      m.buildSource? = none := by
  obtain ⟨m, hrun, hreached, hfrozen, hartifacts, hentry⟩ := performAll_ofSpec (μ := OnDisk)
    (.ofBasename "VkDecoder" .host) "out" .default suppressedForAWhile
  refine ⟨m, ?_, ?_, ?_, ?_⟩
  · have hname : m.name = "VkDecoder" := hreached.name
    rw [hrun, hartifacts, hfrozen]
    show (([ModuleOutcome.delivered m.name _, .alreadyFinalized "VkDecoder"], m), _) = _
    rw [hname]
  · rw [hreached.text]
    decide
  · rw [hartifacts]
    rfl
  · rw [hentry]
    rfl

end Delivering

end OutputModule

end VulkanWire
