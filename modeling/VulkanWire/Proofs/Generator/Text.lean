import VulkanWire.Emitter.Standard
import VulkanWire.Proofs.Generator.Assembly
import VulkanWire.Proofs.Generator.Delivery

/-!
# The text of a run

A run leaves in every module the text that the emitters bound to it answer when
they perform the script of the schema: nothing is left out, nothing comes from
anywhere else, and what is delivered does not matter. A module that is
suppressed stays empty.

## Main results

* `run_assembled` — a run from assembly to delivery.
* `run_leaves_performance` — the text of every module after a run without
  suppression.
-/

namespace VulkanWire

namespace OutputModule

variable {ε : Type} [Emitter ε] (gate : FeatureGate) (s : Schema) (bindings : List (Binding ε))
  (m : OutputModule)

/-- What the emitters bound to a module answer when they perform the script of a schema. -/
def pieces : List Piece :=
  performance m.usesGuards (s.script gate) (Generator.boundTo m.name bindings)

/-- The module once its emitters have performed the script of a schema. -/
def performed : OutputModule := m.take (Piece.texts (m.pieces gate s bindings))

theorem pieces_congr {m m' : OutputModule} (hname : m.name = m'.name)
    (hguards : m.usesGuards = m'.usesGuards) :
    m.pieces gate s bindings = m'.pieces gate s bindings := by
  rw [pieces, pieces, hname, hguards]

@[simp] theorem spec_performed : (m.performed gate s bindings).spec = m.spec := spec_take ..

@[simp] theorem name_performed : (m.performed gate s bindings).name = m.name := name_take ..

@[simp] theorem usesGuards_performed : (m.performed gate s bindings).usesGuards = m.usesGuards :=
  usesGuards_take ..

@[simp] theorem preambles_performed : (m.performed gate s bindings).preambles = m.preambles :=
  preambles_take ..

@[simp] theorem suppressed_performed :
    (m.performed gate s bindings).suppressed = m.suppressed :=
  suppressed_take ..

@[simp] theorem finalized_performed :
    (m.performed gate s bindings).finalized = m.finalized :=
  finalized_take ..

end OutputModule

namespace Generator

variable {ε : Type} [Emitter ε] {o : GeneratorOptions} {gate : FeatureGate}
  {specs : List ModuleSpec} {bindings : List (Binding ε)} {s : Schema}

theorem map_name_suppress {keep : Option String} {ms : List OutputModule} :
    (suppress keep ms).map (·.name) = ms.map (·.name) := by
  cases keep with
  | none => rfl
  | some k =>
      rw [suppress, List.map_map]
      rfl

omit [Emitter ε] in
/-- Every module is a declared one, suppressed if another one is to be kept. -/
theorem exists_of_mem_suppress {keep : Option String} {ms : List OutputModule} {m : OutputModule}
    (hm : m ∈ suppress keep ms) :
    ∃ m₀ ∈ ms, ∃ suppressed, m = { m₀ with suppressed } ∧
      ∀ name, keep = some name → m.name ≠ name → suppressed = true := by
  cases keep with
  | none =>
      refine ⟨m, hm, m.suppressed, rfl, ?_⟩
      intro name hname
      cases hname
  | some keep =>
      obtain ⟨m₀, hm₀, rfl⟩ := List.mem_map.mp hm
      refine ⟨m₀, hm₀, _, rfl, ?_⟩
      intro name hname hne
      injection hname with hname
      rw [← hname] at hne
      exact decide_eq_true hne

omit [Emitter ε] in
theorem map_name_assembled (o : GeneratorOptions) (gate : FeatureGate) (specs : List ModuleSpec)
    (bindings : List (Binding ε)) :
    (assembled o gate specs bindings).modules.map (·.name) = specs.map (·.name) := by
  rw [assembled, map_name_suppress, List.map_map]
  rfl

/-- Each module performs with the emitters bound to its name. -/
theorem modules_performed (hsound : Sound o.suppressExcept specs bindings) {st : Stage ε}
    (hst : Performed (s.script gate) (assembled o gate specs bindings).stage st) :
    st.modules = (assembled o gate specs bindings).modules.map (·.performed gate s bindings) := by
  rw [hst.modules]
  apply List.ext_getElem?
  intro place
  simp only [stage, List.getElem?_mapIdx, List.getElem?_map]
  cases hm : (assembled o gate specs bindings).modules[place]? with
  | none => rfl
  | some m =>
      have hname : (specs.map (·.name))[place]? = some m.name := by
        rw [← map_name_assembled o gate specs bindings, List.getElem?_map, hm]
        rfl
      have hbound : emittersAt place (assembled o gate specs bindings).bound =
          boundTo m.name bindings :=
        emittersAt_placed hsound.distinct hname hsound.known
      simp only [Option.map_some, hbound]
      rfl

/-- The generator before its delivery: all modules have performed, and the file has ended. -/
def concluded (o : GeneratorOptions) (gate : FeatureGate) (specs : List ModuleSpec)
    (bindings : List (Binding ε)) (s : Schema) (bound : List (BoundEmitter ε)) : Generator ε where
  options := o
  gate := gate
  modules := (suppress o.suppressExcept (specs.map (declare o))).map (·.performed gate s bindings)
  bound := bound
  registry := s.finalRegistry gate
  phase := .spent

/-- No module is finalized before the delivery. -/
theorem finalized_of_mem_concluded {bound : List (BoundEmitter ε)} {m : OutputModule}
    (hm : m ∈ (concluded o gate specs bindings s bound).modules) : m.finalized = false := by
  obtain ⟨m₀, hm₀, rfl⟩ := List.mem_map.mp hm
  obtain ⟨m₁, hm₁, suppressed, rfl, -⟩ := exists_of_mem_suppress hm₀
  obtain ⟨spec, -, rfl⟩ := List.mem_map.mp hm₁
  rw [OutputModule.finalized_performed]
  rfl

/-- A run from assembly to delivery: every module performs, and then all of them are delivered. -/
theorem run_assembled (hsound : Sound o.suppressExcept specs bindings) (hs : s.validate = .ok ()) :
    ∃ bound, ∀ {d d' : Disk} {report : GenerationReport} {g : Generator ε},
      (deliver (concluded o gate specs bindings s bound) : OnDisk _).run d = ((report, g), d') →
      ((assembled o gate specs bindings).run s : OnDisk _).run d = ((.ok report, g), d') := by
  obtain ⟨st, hst, hrun⟩ := run_eq_deliver (m := OnDisk) (assembled o gate specs bindings) s rfl rfl hs
  refine ⟨st.bound, ?_⟩
  intro d d' report g hdeliver
  have hconcluded : (assembled o gate specs bindings).resume st (s.finalRegistry gate) .spent =
      concluded o gate specs bindings s st.bound := by
    rw [resume, modules_performed hsound hst]
    rfl
  rw [hrun]
  show (deliver ((assembled o gate specs bindings).resume st (s.finalRegistry gate) .spent) >>= _ :
    OnDisk _).run d = _
  rw [hconcluded, OnDisk.run_bind hdeliver]
  rfl

/-- A module as declared takes all the text it is given. -/
theorem text_performed_declare (spec : ModuleSpec) :
    ((declare o spec).performed gate s bindings).text =
      Piece.texts ((declare o spec).pieces gate s bindings) := by
  rw [OutputModule.performed, OutputModule.text_take_of_accepts rfl]
  exact Emission.silent_append _

theorem spec_performed_declare (spec : ModuleSpec) :
    ((declare o spec).performed gate s bindings).spent.spec = spec := by
  rw [OutputModule.spec_spent, OutputModule.spec_performed]
  rfl

/-- Without suppression, all modules of a run from assembly to delivery are the declared ones
after their performance. -/
theorem exists_run_assembled (hsound : Sound o.suppressExcept specs bindings)
    (hall : o.suppressExcept = none) (hs : s.validate = .ok ()) (d : Disk) :
    ∃ report g' d', ((assembled o gate specs bindings).run s : OnDisk _).run d =
        ((.ok report, g'), d') ∧
      g'.modules = specs.map fun spec => ((declare o spec).performed gate s bindings).spent := by
  obtain ⟨bound, hrun⟩ := run_assembled hsound hs
  obtain ⟨report, d', hdeliver⟩ := exists_deliver (concluded o gate specs bindings s bound) d
  refine ⟨report, _, d', hrun hdeliver, ?_⟩
  simp only [delivered, concluded, hall, suppress, List.map_map]
  rfl

/-- What the declared modules hold after their performance. -/
theorem text_of_mem_performed {m : OutputModule}
    (hm : m ∈ specs.map fun spec => ((declare o spec).performed gate s bindings).spent) :
    m.text = Piece.texts (m.pieces gate s bindings) := by
  obtain ⟨spec, -, rfl⟩ := List.mem_map.mp hm
  have hpieces : ((declare o spec).performed gate s bindings).spent.pieces gate s bindings =
      (declare o spec).pieces gate s bindings :=
    OutputModule.pieces_congr gate s bindings (by simp) (by simp)
  rw [OutputModule.text_spent, hpieces]
  exact text_performed_declare spec

/-- A run without suppression comes to its end on every disk, and every module is left with
exactly what the emitters bound to it answer when they perform the script of the schema. -/
theorem run_leaves_performance {g : Generator ε} (hg : assemble o gate specs bindings = .ok g)
    (hall : o.suppressExcept = none) (hs : s.validate = .ok ()) (d : Disk) :
    ∃ report g' d', (g.run s : OnDisk _).run d = ((.ok report, g'), d') ∧
      g'.modules.map (·.spec) = specs ∧
      ∀ m ∈ g'.modules, m.text = Piece.texts (m.pieces gate s bindings) := by
  obtain ⟨hsound, rfl⟩ := assemble_eq_ok_iff.mp hg
  obtain ⟨report, g', d', hrun, hmodules⟩ := exists_run_assembled hsound hall hs d
  refine ⟨report, g', d', hrun, ?_, ?_⟩
  · rw [hmodules, List.map_map]
    simp only [Function.comp_def, spec_performed_declare, List.map_id']
  · intro m hm
    rw [hmodules] at hm
    exact text_of_mem_performed hm

/-! ## A small table -/

/-- A guarded module and one without guards. -/
def sampleSpecs : List ModuleSpec := [
  .ofBasename "alpha" .host,
  { ModuleSpec.ofBasename "beta" .guestEncoder with suppressFeatureGuards := true }]

/-- Two emitters of one module around the emitter of the other. -/
def sampleBindings : List (Binding StandardEmitter) :=
  [⟨.encoder {}, "beta"⟩, ⟨.decoder, "alpha"⟩, ⟨.marshaling { side := .guest }, "beta"⟩]

/-- A version that introduces a command and an extension that introduces a type. -/
def sampleSchema : Schema where
  features := [
    { name := "VK_VERSION_1_0", require := ["vkDoIt"], elements := [.command { name := "vkDoIt" }] },
    { name := "VK_EXT_more", kind := .deviceExtension, elements := [.type { name := "int" }] }]

/-- The version is supported, and the extension's type is kept. -/
def sampleGate : FeatureGate :=
  (FeatureGate.ofSupported ["VK_VERSION_1_0"]).withExceptions ["int"]

theorem sample_sound : Sound none sampleSpecs sampleBindings where
  distinct := by decide
  known := by decide
  kept := by
    intro name h
    cases h

/-- The small table, generated into an empty file system. -/
theorem run_leaves_performance_sample :
    ∃ report g' d',
      ((assembled { outputDir := "out" } sampleGate sampleSpecs sampleBindings).run sampleSchema :
        OnDisk _).run ⟨[], []⟩ = ((.ok report, g'), d') ∧
      g'.modules.map (·.spec) = sampleSpecs ∧
      ∀ m ∈ g'.modules,
        m.text = Piece.texts (m.pieces sampleGate sampleSchema sampleBindings) :=
  run_leaves_performance (assemble_eq_ok_iff.mpr ⟨sample_sound, rfl⟩) rfl rfl ⟨[], []⟩

end Generator

end VulkanWire
