import VulkanWire.Proofs.Generator.Text
import VulkanWire.Proofs.Schema.Offences

/-!
# Declarations

A generator is put together from the declarations of modules, from bindings of
emitters to modules, and from the name of the only module to keep, if there is
one. What is wrong with them is reported one fault at a time: a module name that
repeats comes before a binding to an undeclared module, and that comes before an
undeclared module to keep. Of faults of one kind, the first is reported.
Declarations without fault become what they say.

## Main definitions

* `FirstFault` — the fault that is reported.
* `AsDeclared` — a generator that is what its declarations say.

## Main results

* `assemble_eq_error_iff` — the report is about the first fault.
* `assembled_as_declared` — when assembly succeeds, how it fails, and what it
  puts together.
* `assembleWithIndex_eq`, `bind_placeIn_eq_module?` — the same with an index of
  modules.
-/

namespace VulkanWire

/-- The files of a module lie in its directory. -/
theorem OutputModule.path_of_mem_artifacts (m : OutputModule) {a : Artifact}
    (ha : a ∈ m.artifacts) :
    a.path = m.directory.join ⟨m.spec.basename ++ ".h"⟩ ∨
      a.path = m.directory.join ⟨m.spec.basename ++ ".cpp"⟩ := by
  rcases List.mem_append.mp ha with hheader | himplementation
  · split at hheader
    · cases hheader
    · rw [List.mem_singleton.mp hheader]
      exact .inl rfl
  · split at himplementation
    · cases himplementation
    · rw [List.mem_singleton.mp himplementation]
      exact .inr rfl

namespace Generator

variable {ε : Type}

/-! ## Faults -/

section Faults

variable {names : List String} {bindings : List (Binding ε)}

theorem find?_unknown_eq_none_iff :
    bindings.find? (·.module ∉ names) = none ↔ ∀ b ∈ bindings, b.module ∈ names := by
  simp [List.find?_eq_none]

theorem find?_unknown_eq_some_iff {b : Binding ε} :
    bindings.find? (·.module ∉ names) = some b ↔
      b.module ∉ names ∧ ∃ before after, bindings = before ++ b :: after ∧
        ∀ b' ∈ before, b'.module ∈ names := by
  simp [List.find?_eq_some_iff_append]

variable [Emitter ε]

/-- Modules are found for all bindings, up to the first one to a module that is not declared. -/
theorem bindAll_eq (names : List String) (bindings : List (Binding ε)) :
    bindAll names bindings =
      match bindings.find? (·.module ∉ names) with
      | some b => .error (.unknownModule (Emitter.label b.emitter) b.module names)
      | none => .ok (placed names bindings) := by
  induction bindings with
  | nil => rfl
  | cons b rest ih =>
      by_cases hknown : b.module ∈ names
      · rw [bindAll, if_pos hknown, ih, List.find?_cons_of_neg (by simpa using hknown)]
        cases rest.find? (·.module ∉ names) with
        | none => rfl
        | some b' => rfl
      · rw [bindAll, if_neg hknown, List.find?_cons_of_pos (by simpa using hknown)]

/-- The first fault of declarations. -/
inductive FirstFault (keep : Option String) (specs : List ModuleSpec)
    (bindings : List (Binding ε)) : SetupFault → Prop where
  /-- The name of a module repeats an earlier one. -/
  | duplicateModule {name : String} (hname : FirstRepetition (specs.map (·.name)) name) :
    FirstFault keep specs bindings (.duplicateModule name)
  /-- The names are distinct, and a binding is the first one to a module that is not declared. -/
  | unknownModule {before after : List (Binding ε)} {b : Binding ε}
    (hdistinct : (specs.map (·.name)).Nodup) (hsplit : bindings = before ++ b :: after)
    (hbefore : ∀ b' ∈ before, b'.module ∈ specs.map (·.name))
    (hunknown : b.module ∉ specs.map (·.name)) :
    FirstFault keep specs bindings
      (.unknownModule (Emitter.label b.emitter) b.module (specs.map (·.name)))
  /-- Only the module to keep is not declared. -/
  | unknownSuppressedModule {name : String} (hdistinct : (specs.map (·.name)).Nodup)
    (hknown : ∀ b ∈ bindings, b.module ∈ specs.map (·.name)) (hkeep : keep = some name)
    (hunknown : name ∉ specs.map (·.name)) :
    FirstFault keep specs bindings (.unknownSuppressedModule name (specs.map (·.name)))

end Faults

section Reporting

variable [Emitter ε] {o : GeneratorOptions} {gate : FeatureGate} {specs : List ModuleSpec}
  {bindings : List (Binding ε)} {fault : SetupFault}

/-- What is reported is the first fault. -/
theorem FirstFault.of_error (h : assemble o gate specs bindings = .error fault) :
    FirstFault o.suppressExcept specs bindings fault := by
  rw [assemble_eq, bindAll_eq] at h
  cases hrepeated : firstRepeated? [] (specs.map (·.name)) with
  | some name =>
      rw [hrepeated] at h
      injection h with h
      rw [← h]
      exact .duplicateModule ((firstRepeated?_nil_eq_some_iff _ name).mp hrepeated)
  | none =>
      have hdistinct := (firstRepeated?_nil_eq_none_iff _).mp hrepeated
      rw [hrepeated] at h
      cases hfound : bindings.find? (·.module ∉ specs.map (·.name)) with
      | some b =>
          obtain ⟨hunknown, before, after, hsplit, hbefore⟩ := find?_unknown_eq_some_iff.mp hfound
          rw [hfound] at h
          injection h with h
          rw [← h]
          exact .unknownModule hdistinct hsplit hbefore hunknown
      | none =>
          have hknown := find?_unknown_eq_none_iff.mp hfound
          rw [hfound] at h
          cases hkeep : o.suppressExcept with
          | none =>
              rw [hkeep] at h
              cases h
          | some keep =>
              simp only [hkeep] at h
              by_cases hmem : keep ∈ specs.map (·.name)
              · rw [if_pos hmem] at h
                cases h
              · rw [if_neg hmem] at h
                injection h with h
                rw [← h]
                exact .unknownSuppressedModule hdistinct hknown rfl hmem

/-- The first fault is reported. -/
theorem FirstFault.assemble (h : FirstFault o.suppressExcept specs bindings fault) :
    Generator.assemble o gate specs bindings = .error fault := by
  rw [assemble_eq, bindAll_eq]
  cases h with
  | duplicateModule hname => rw [(firstRepeated?_nil_eq_some_iff _ _).mpr hname]
  | unknownModule hdistinct hsplit hbefore hunknown =>
      rw [(firstRepeated?_nil_eq_none_iff _).mpr hdistinct,
        find?_unknown_eq_some_iff.mpr ⟨hunknown, _, _, hsplit, hbefore⟩]
  | unknownSuppressedModule hdistinct hknown hkeep hunknown =>
      rw [(firstRepeated?_nil_eq_none_iff _).mpr hdistinct, find?_unknown_eq_none_iff.mpr hknown,
        hkeep]
      exact if_neg hunknown

theorem assemble_eq_error_iff :
    assemble o gate specs bindings = .error fault ↔
      FirstFault o.suppressExcept specs bindings fault :=
  ⟨.of_error, fun h => h.assemble⟩

end Reporting

/-! ## What is put together -/

/-- The module of a declaration among others, of which maybe only one is kept. -/
def declared (o : GeneratorOptions) (s : ModuleSpec) : OutputModule :=
  { declare o s with suppressed := o.suppressExcept.any (s.name ≠ ·) }

theorem modules_assembled (o : GeneratorOptions) (gate : FeatureGate) (specs : List ModuleSpec)
    (bindings : List (Binding ε)) :
    (assembled o gate specs bindings).modules = specs.map (declared o) := by
  show suppress o.suppressExcept (specs.map (declare o)) = _
  cases hkeep : o.suppressExcept with
  | none =>
      apply List.map_congr_left
      intro s _
      rw [declared, hkeep]
      rfl
  | some keep =>
      rw [suppress, List.map_map]
      apply List.map_congr_left
      intro s _
      rw [declared, hkeep]
      rfl

/-- With distinct names, a module is found by its name, and no other module is. -/
theorem module?_eq_some_iff {g : Generator ε} (hdistinct : (g.modules.map (·.name)).Nodup)
    {name : String} {m : OutputModule} :
    g.module? name = some m ↔ m ∈ g.modules ∧ m.name = name := by
  constructor
  · intro hfound
    exact ⟨List.mem_of_find?_eq_some hfound, by simpa using List.find?_some hfound⟩
  · rintro ⟨hm, rfl⟩
    cases hfound : g.module? m.name with
    | none =>
        have hnone := List.find?_eq_none.mp hfound m hm
        exact absurd (decide_eq_true rfl) hnone
    | some m' =>
        have hname : m'.name = m.name := by simpa using List.find?_some hfound
        rw [List.inj_on_of_nodup_map hdistinct (List.mem_of_find?_eq_some hfound) hm hname]

/-- A generator that is what its declarations say. -/
structure AsDeclared (o : GeneratorOptions) (gate : FeatureGate) (specs : List ModuleSpec)
    (bindings : List (Binding ε)) (g : Generator ε) : Prop where
  options_eq : g.options = o
  gate_eq : g.gate = gate
  /-- The modules are those declared, in order. -/
  specs_eq : g.modules.map (·.spec) = specs
  /-- A module is found by its name. -/
  found : ∀ m ∈ g.modules, g.module? m.name = some m
  /-- Nothing is found by any other name. -/
  unknown : ∀ name, name ∉ specs.map (·.name) → g.module? name = none
  /-- Every module has its own directory or the one of its role. -/
  directory_eq : ∀ m ∈ g.modules, m.directory = m.spec.directory.getD (o.roleDir m.spec.role)
  /-- Its files lie there. -/
  artifacts : ∀ m ∈ g.modules, ∀ a ∈ m.artifacts,
    a.path = m.directory.join ⟨m.spec.basename ++ ".h"⟩ ∨
      a.path = m.directory.join ⟨m.spec.basename ++ ".cpp"⟩
  /-- All modules but the one to keep are suppressed, if there is one. -/
  suppressed_iff : ∀ m ∈ g.modules,
    m.suppressed = true ↔ ∃ keep, o.suppressExcept = some keep ∧ m.name ≠ keep
  /-- No module has any text, and none is finalized. -/
  untouched : ∀ m ∈ g.modules, m.text = .silent ∧ m.finalized = false
  /-- The emitters are those bound, in order, each at the place of its module. -/
  bound : List.Forall₂ (fun (b : Binding ε) (e : BoundEmitter ε) => e.emitter = b.emitter ∧
    (g.modules[e.place]?).map (·.name) = some b.module) bindings g.bound
  phase_eq : g.phase = .ready
  registry_eq : g.registry = {}

section Declaring

variable {o : GeneratorOptions} {gate : FeatureGate} {specs : List ModuleSpec}
  {bindings : List (Binding ε)}

/-- What is put together without fault is what the declarations say. -/
theorem AsDeclared.of_sound (h : Sound o.suppressExcept specs bindings) :
    AsDeclared o gate specs bindings (assembled o gate specs bindings) := by
  have hmodules := modules_assembled o gate specs bindings
  have hnames : (assembled o gate specs bindings).modules.map (·.name) = specs.map (·.name) :=
    map_name_assembled o gate specs bindings
  have hdistinct : ((assembled o gate specs bindings).modules.map (·.name)).Nodup := by
    rw [hnames]
    exact h.distinct
  have hdeclared : ∀ m ∈ (assembled o gate specs bindings).modules, ∃ s, m = declared o s := by
    intro m hm
    rw [hmodules] at hm
    obtain ⟨s, -, rfl⟩ := List.mem_map.mp hm
    exact ⟨s, rfl⟩
  exact {
    options_eq := rfl
    gate_eq := rfl
    specs_eq := by
      rw [hmodules, List.map_map]
      exact List.map_id' specs
    found := by
      intro m hm
      exact (module?_eq_some_iff hdistinct).mpr ⟨hm, rfl⟩
    unknown := by
      intro name hname
      apply List.find?_eq_none.mpr
      intro m hm hsame
      apply hname
      rw [← hnames, ← of_decide_eq_true hsame]
      exact List.mem_map_of_mem hm
    directory_eq := by
      intro m hm
      obtain ⟨s, rfl⟩ := hdeclared m hm
      rfl
    artifacts := fun m _ a ha => m.path_of_mem_artifacts ha
    suppressed_iff := by
      intro m hm
      obtain ⟨s, rfl⟩ := hdeclared m hm
      show o.suppressExcept.any (s.name ≠ ·) = true ↔
        ∃ keep, o.suppressExcept = some keep ∧ s.name ≠ keep
      cases o.suppressExcept <;> simp
    untouched := by
      intro m hm
      obtain ⟨s, rfl⟩ := hdeclared m hm
      exact ⟨rfl, rfl⟩
    bound := by
      apply List.forall₂_map_right_iff.mpr
      apply List.forall₂_same.mpr
      intro b hb
      refine ⟨rfl, ?_⟩
      rw [← List.getElem?_map, hnames]
      exact List.getElem?_idxOf (h.known b hb)
    phase_eq := rfl
    registry_eq := rfl }

end Declaring

/-- Assembly succeeds exactly if the names of modules are distinct, every binding is to a declared
module, and so is the module to keep, if there is one. Otherwise the first fault is reported, and it
carries the names of all modules where one of them is missing. What is put together is what the
declarations say. -/
theorem assembled_as_declared [Emitter ε] (o : GeneratorOptions) (gate : FeatureGate)
    (specs : List ModuleSpec) (bindings : List (Binding ε)) :
    ((∃ g, assemble o gate specs bindings = .ok g) ↔ Sound o.suppressExcept specs bindings) ∧
    (∀ fault, assemble o gate specs bindings = .error fault ↔
      FirstFault o.suppressExcept specs bindings fault) ∧
    ∀ g, assemble o gate specs bindings = .ok g → AsDeclared o gate specs bindings g := by
  refine ⟨?_, fun _ => assemble_eq_error_iff, ?_⟩
  · constructor
    · rintro ⟨g, hg⟩
      exact (assemble_eq_ok_iff.mp hg).1
    · intro hsound
      exact ⟨_, assemble_eq_ok_iff.mpr ⟨hsound, rfl⟩⟩
  · intro g hg
    obtain ⟨hsound, rfl⟩ := assemble_eq_ok_iff.mp hg
    exact .of_sound hsound

/-- The small table, of which one module is kept; and with a third module of the same name, a binding
to an undeclared module and an undeclared module to keep, of which the name is reported. -/
theorem assembled_as_declared_sample :
    (∃ g, assemble { outputDir := "out", suppressExcept := some "beta" } sampleGate sampleSpecs
        sampleBindings = .ok g ∧
      AsDeclared { outputDir := "out", suppressExcept := some "beta" } sampleGate sampleSpecs
        sampleBindings g) ∧
    assemble { outputDir := "out", suppressExcept := some "gamma" } sampleGate
      (sampleSpecs ++ [.ofBasename "alpha" .common])
      [(⟨.decoder, "delta"⟩ : Binding StandardEmitter)] = .error (.duplicateModule "alpha") := by
  obtain ⟨hok, -, hdeclared⟩ := assembled_as_declared
    { outputDir := "out", suppressExcept := some "beta" } sampleGate sampleSpecs sampleBindings
  obtain ⟨g, hg⟩ := hok.mpr {
    distinct := by decide
    known := by decide
    kept := by
      intro name hname
      injection hname with hname
      rw [← hname]
      decide }
  refine ⟨⟨g, hg, hdeclared g hg⟩, ?_⟩
  apply ((assembled_as_declared _ _ _ _).2.1 _).mpr
  exact .duplicateModule ⟨["alpha", "beta"], [], rfl, by decide, by decide⟩

/-! ## An index of modules

Modules can also be found by an index, which every module enters with its place when it is declared.
The index is then all that knows names: it refuses one that it has, leads bindings to the places of
their modules, and finds modules, whatever has become of them, as long as they stay in their
places. -/

/-- The places of names in a list. -/
def placeIn (names : List String) (name : String) : Option Nat := names.idxOf? name

/-- Declares modules after others, and enters each into the index with the place that it gets. -/
def declareAll (o : GeneratorOptions) : List ModuleSpec → List OutputModule →
    (String → Option Nat) → Except SetupFault (List OutputModule × (String → Option Nat))
  | [], ms, index => .ok (ms, index)
  | s :: specs, ms, index =>
    if (index s.name).isSome then .error (.duplicateModule s.name)
    else declareAll o specs (ms ++ [declare o s]) (Function.update index s.name (some ms.length))

/-- Finds the module of every binding in an index. -/
def bindByIndex [Emitter ε] (names : List String) (index : String → Option Nat) :
    List (Binding ε) → Except SetupFault (List (BoundEmitter ε))
  | [] => .ok []
  | b :: rest =>
    match index b.module with
    | some place => do
      let bound ← bindByIndex names index rest
      .ok (⟨b.emitter, place⟩ :: bound)
    | none => .error (.unknownModule (Emitter.label b.emitter) b.module names)

/-- Puts a generator together with an index of its modules. -/
def assembleWithIndex [Emitter ε] (o : GeneratorOptions) (gate : FeatureGate)
    (specs : List ModuleSpec) (bindings : List (Binding ε)) :
    Except SetupFault (Generator ε × (String → Option Nat)) := do
  let names := specs.map (·.name)
  let (modules, index) ← declareAll o specs [] fun _ => none
  let bound ← bindByIndex names index bindings
  if let some keep := o.suppressExcept then
    unless (index keep).isSome do .error (.unknownSuppressedModule keep names)
  .ok ({
    options := o
    gate := gate
    modules := suppress o.suppressExcept modules
    bound := bound }, index)

section Index

variable {names : List String}

/-- A name that is new in a list is found at its end. -/
theorem placeIn_append_singleton {name : String} (hnew : name ∉ names) :
    placeIn (names ++ [name]) = Function.update (placeIn names) name (some names.length) := by
  funext other
  rw [Function.update_apply, placeIn, placeIn, List.idxOf?, List.findIdx?_append]
  by_cases hsame : other = name
  · subst hsame
    have hnone : names.findIdx? (· == other) = none := List.idxOf?_eq_none_iff.mpr hnew
    rw [hnone, if_pos rfl]
    simp
  · have hother : [name].findIdx? (· == other) = none := by simp [Ne.symm hsame]
    rw [hother, if_neg hsame, Option.map_none, Option.or_none]

theorem isSome_placeIn {name : String} : (placeIn names name).isSome = true ↔ name ∈ names :=
  List.isSome_idxOf?

/-- Modules are declared up to the first name that repeats, and then found where they stand. -/
theorem declareAll_eq (o : GeneratorOptions) (specs : List ModuleSpec) {seen : List String}
    (hseen : ∀ name, name ∈ seen ↔ name ∈ names) {ms : List OutputModule}
    (hlength : ms.length = names.length) :
    declareAll o specs ms (placeIn names) =
      match firstRepeated? seen (specs.map (·.name)) with
      | some name => .error (.duplicateModule name)
      | none => .ok (ms ++ specs.map (declare o), placeIn (names ++ specs.map (·.name))) := by
  induction specs generalizing seen names ms with
  | nil => simp [declareAll, firstRepeated?]
  | cons s specs ih =>
      rw [declareAll, List.map_cons, firstRepeated?]
      by_cases hknown : s.name ∈ names
      · rw [if_pos (isSome_placeIn.mpr hknown), if_pos ((hseen s.name).mpr hknown)]
      · have hseen' : ∀ name, name ∈ s.name :: seen ↔ name ∈ names ++ [s.name] := by
          intro name
          simp [hseen, or_comm]
        have hlength' : (ms ++ [declare o s]).length = (names ++ [s.name]).length := by
          simp [hlength]
        rw [if_neg (mt isSome_placeIn.mp hknown), if_neg (mt (hseen s.name).mp hknown), hlength,
          ← placeIn_append_singleton hknown, ih hseen' hlength']
        simp only [List.append_assoc, List.singleton_append, List.map_cons]

/-- A module is found by the index of the names, whatever has become of the modules. -/
theorem bind_placeIn_eq_module? {g : Generator ε} (hnames : g.modules.map (·.name) = names)
    (name : String) : (placeIn names name).bind (g.modules[·]?) = g.module? name := by
  rw [module?, List.find?_eq_bind_findIdx?_getElem?, ← hnames, placeIn, List.idxOf?,
    List.findIdx?_map]
  rfl

variable [Emitter ε]

theorem bindByIndex_eq (names : List String) (bindings : List (Binding ε)) :
    bindByIndex names (placeIn names) bindings = bindAll names bindings := by
  induction bindings with
  | nil => rfl
  | cons b rest ih =>
      rw [bindByIndex, bindAll, ih]
      by_cases hknown : b.module ∈ names
      · have hplace : placeIn names b.module = some (names.idxOf b.module) := by
          obtain ⟨place, hplace⟩ := Option.isSome_iff_exists.mp (isSome_placeIn.mpr hknown)
          rw [hplace, List.idxOf_eq_getD_idxOf?]
          exact congrArg (fun found : Option Nat => some (found.getD names.length)) hplace.symm
        rw [hplace, if_pos hknown]
      · have hnone : placeIn names b.module = none := List.idxOf?_eq_none_iff.mpr hknown
        rw [hnone, if_neg hknown]

/-- With an index, the same generators are put together, and the same faults are reported. -/
theorem assembleWithIndex_eq (o : GeneratorOptions) (gate : FeatureGate) (specs : List ModuleSpec)
    (bindings : List (Binding ε)) :
    assembleWithIndex o gate specs bindings =
      (assemble o gate specs bindings).map fun g => (g, placeIn (specs.map (·.name))) := by
  have hnone : ∀ name : String, name ∈ ([] : List String) ↔ name ∈ ([] : List String) :=
    fun _ => Iff.rfl
  have hdeclare : declareAll o specs [] (fun _ => none) = _ := declareAll_eq o specs hnone rfl
  simp only [assembleWithIndex, hdeclare, assemble]
  cases firstRepeated? [] (specs.map (·.name)) with
  | some name => rfl
  | none =>
      have hbind := bindByIndex_eq (specs.map (·.name)) bindings
      simp only [List.nil_append, bind, Except.bind, hbind]
      cases bindAll (specs.map (·.name)) bindings with
      | error fault => rfl
      | ok bound =>
          cases o.suppressExcept with
          | none => rfl
          | some keep =>
              by_cases hknown : keep ∈ specs.map (·.name)
              · simp only [isSome_placeIn, hknown, if_true]
                rfl
              · simp only [isSome_placeIn, hknown, if_false]
                rfl

end Index

end Generator

end VulkanWire
