import VulkanWire.Proofs.Generator.Playing
import VulkanWire.Generator.Run

/-!
# A traversal performs its script

The events of a schema drive a fresh generator from `ready` to `spent` without
a single refusal. On the way each supported feature is played as its passage,
an unsupported one leaves at most exception types in the registry, and the
registry moves as the schema and the gate alone say. What remains of a whole
run is the delivery at its end.

## Main results

* `runOn_walkElements_active`, `runOn_walkElements_skipped` — the definitions
  of a feature.
* `runOn_walkFeatures` — all features.
* `run_eq_deliver` — a whole run performs the script of its schema and delivers.
-/

namespace VulkanWire.Generator

variable {ε : Type}

/-! ## The stage of a generator -/

/-- The stage of a generator. -/
def stage (g : Generator ε) : Stage ε := ⟨g.bound, g.modules⟩

/-- A generator with its performance and its traversal further on. -/
def resume (g : Generator ε) (st : Stage ε) (r : Registry) (phase : Phase) : Generator ε :=
  { g with bound := st.bound, modules := st.modules, registry := r, phase := phase }

theorem resume_self {g : Generator ε} {p : Phase} (h : g.phase = p) :
    g.resume g.stage g.registry p = g := by
  rw [← h]
  rfl

/-- The selection of the emitters at given places. -/
abbrev among (places : List Nat) : Nat → Bool := fun i => places.contains i

/-! ## Runs of reactions -/

section Running

variable {m : Type → Type} [Monad m] [LawfulMonad m]

/-- A step that is accepted hands its result to what comes after it. -/
theorem runOn_bind_of_ok {α β : Type} {x : Generating ε m α} {f : α → Generating ε m β}
    {g g' : Generator ε} {a : α} (h : runOn x g = pure (.ok a, g')) :
    runOn (x >>= f) g = runOn (f a) g' := by
  simp only [runOn, ExceptT.run_bind, StateT.run_bind] at h ⊢
  rw [h, pure_bind]

theorem runOn_get (g : Generator ε) :
    runOn (get : Generating ε m (Generator ε)) g = pure (.ok g, g) := by
  show (Except.ok <$> (get : StateT (Generator ε) m (Generator ε))).run g = _
  simp

theorem runOn_set (g g' : Generator ε) :
    runOn (set g' : Generating ε m PUnit) g = pure (.ok (), g') := by
  show (Except.ok <$> (set g' : StateT (Generator ε) m PUnit)).run g = _
  simp

/-- Work outside the generator leaves it as it is. -/
theorem runOn_monadLift_bind {α β : Type} (x : m α) (f : α → Generating ε m β)
    (g : Generator ε) :
    runOn ((monadLift x : Generating ε m α) >>= f) g = x >>= fun a => runOn (f a) g := by
  have hlift : runOn (monadLift x : Generating ε m α) g = (do let a ← x; pure (.ok a, g)) := by
    show (Except.ok <$> (StateT.lift x : StateT (Generator ε) m α)).run g = _
    simp
  simp only [runOn, ExceptT.run_bind, StateT.run_bind] at hlift ⊢
  rw [hlift, bind_assoc]
  simp only [pure_bind]

theorem runOn_react {step : Generator ε → Except GenerationFault (Generator ε)}
    {g g' : Generator ε} (h : step g = .ok g') :
    runOn (react step : Generating ε m Unit) g = pure (.ok (), g') := by
  rw [react, runOn_bind_of_ok (runOn_get g), h]
  exact runOn_set g g'

/-- A step that is refused is the last one. -/
theorem runOn_bind_of_error {α β : Type} {x : Generating ε m α} {f : α → Generating ε m β}
    {g g' : Generator ε} {fault : GenerationFault} (h : runOn x g = pure (.error fault, g')) :
    runOn (x >>= f) g = pure (.error fault, g') := by
  simp only [runOn, ExceptT.run_bind, StateT.run_bind] at h ⊢
  rw [h, pure_bind]
  rfl

theorem runOn_react_of_error {step : Generator ε → Except GenerationFault (Generator ε)}
    {g : Generator ε} {fault : GenerationFault} (h : step g = .error fault) :
    runOn (react step : Generating ε m Unit) g = pure (.error fault, g) := by
  rw [react, runOn_bind_of_ok (runOn_get g), h]
  rfl

end Running

variable [Emitter ε]

/-! ## The definitions of a feature -/

theorem define_active {g : Generator ε} {name : String} {places : List Nat}
    (h : g.phase = .active name places) (e : Element) :
    define e g =
      .ok (g.resume (Stage.tell (among places) g.stage ⟨g.registry.record e, .element e⟩)
        (g.registry.record e) g.phase) := by
  simp only [define, Phase.requireOpen, h]
  rfl

/-- Outside a supported feature a definition is at most recorded as an exception. -/
theorem define_skipped {g : Generator ε} {name : String} (h : g.phase = .skipped name)
    (e : Element) :
    define e g =
      .ok (g.resume g.stage (g.registry.recordException g.gate name e) g.phase) := by
  have hdefine : define e g =
      if g.keeps e then
        .ok (g.resume g.stage (g.registry.recordUnder (some name) e) (.skipped name))
      else .ok g := by
    simp only [define, Phase.requireOpen, h]
    rfl
  have hself : g.resume g.stage g.registry (.skipped name) = g := by
    rw [← h]
    rfl
  rw [hdefine, h]
  cases e with
  | type d =>
      simp only [keeps, Registry.recordException]
      by_cases hd : g.gate.isException d.name = true <;> simp [hd, hself]
  | struct d => exact congrArg Except.ok hself.symm
  | group d => exact congrArg Except.ok hself.symm
  | enum d => exact congrArg Except.ok hself.symm
  | command d => exact congrArg Except.ok hself.symm

section Running

variable {m : Type → Type} [Monad m] [LawfulMonad m] [Storage m]

/-- Inside a supported feature every definition is recorded and then told. -/
theorem runOn_walkElements_active {name : String} {places : List Nat} (es : List Element)
    (g : Generator ε) (h : g.phase = .active name places) :
    runOn (Schema.walkElements (visitor : Visitor (Generating ε m) _) es) g =
      pure (.ok (),
        g.resume (g.stage.tellAll (among places) (elementCues g.registry es))
          (g.registry.recordAll es) g.phase) := by
  induction es generalizing g with
  | nil => rfl
  | cons e es ih =>
      rw [Schema.walkElements]
      have hstep : runOn ((visitor : Visitor (Generating ε m) _).element e) g = _ :=
        runOn_react (define_active h e)
      rw [runOn_bind_of_ok hstep]
      exact ih _ h

/-- Inside any other feature definitions move the registry alone. -/
theorem runOn_walkElements_skipped {name : String} (es : List Element) (g : Generator ε)
    (h : g.phase = .skipped name) :
    runOn (Schema.walkElements (visitor : Visitor (Generating ε m) _) es) g =
      pure (.ok (),
        g.resume g.stage (es.foldl (Registry.recordException g.gate name) g.registry)
          g.phase) := by
  induction es generalizing g with
  | nil => rfl
  | cons e es ih =>
      rw [Schema.walkElements]
      have hstep : runOn ((visitor : Visitor (Generating ε m) _).element e) g = _ :=
        runOn_react (define_skipped h e)
      rw [runOn_bind_of_ok hstep]
      exact ih _ h

end Running

/-! ## One feature -/

/-- The cues of a feature before its definitions. -/
def enterCues (f : Feature) (entered : Registry) : List Cue :=
  ⟨entered, .enterFeature f.name f.kind⟩ :: f.require.map fun c => ⟨entered, .requireCommand c⟩

theorem requireCommands_eq (places : List Nat) (commands : List String) (g : Generator ε) :
    g.requireCommands places commands =
      g.resume (g.stage.tellAll (among places)
        (commands.map fun c => ⟨g.registry, .requireCommand c⟩)) g.registry g.phase := by
  induction commands generalizing g with
  | nil => rfl
  | cons c commands ih => exact ih (g.tell places (.requireCommand c))

/-- A supported feature opens its guards and tells its admitted emitters what it requires. -/
theorem beginFeature_supported {g : Generator ε} {f : Feature} (h : g.phase = .idle)
    (hs : g.gate.isSupported f.name = true) :
    beginFeature f g =
      .ok (g.resume
        ((g.stage.mapModules (·.openGuard f.name)).tellAll
          (among (g.admitted (g.gate.evaluate f.name)))
          (enterCues f (g.registry.beginFeature f.name f.kind)))
        (g.registry.beginFeature f.name f.kind)
        (.active f.name (g.admitted (g.gate.evaluate f.name)))) := by
  have hdecision : (g.gate.evaluate f.name).supported = true := by
    simp only [FeatureGate.isSupported, List.contains_eq_mem, decide_eq_true_eq] at hs
    simp only [FeatureGate.evaluate, hs, if_true]
  have hbegin : beginFeature f g = .ok (g.enter f (g.admitted (g.gate.evaluate f.name))) := by
    simp only [beginFeature, Phase.requireOpen, Phase.feature?, h, hdecision]
    rfl
  rw [hbegin, enter, requireCommands_eq]
  rfl

theorem beginFeature_unsupported {g : Generator ε} {f : Feature} (h : g.phase = .idle)
    (hs : g.gate.isSupported f.name = false) :
    beginFeature f g = .ok (g.resume g.stage g.registry (.skipped f.name)) := by
  have hdecision : (g.gate.evaluate f.name).supported = false := by
    simp only [FeatureGate.isSupported, List.contains_eq_mem, decide_eq_false_iff_not] at hs
    simp only [FeatureGate.evaluate, hs, if_false]
    rfl
  simp only [beginFeature, Phase.requireOpen, Phase.feature?, h, hdecision]
  rfl

theorem endFeature_active {g : Generator ε} {name : String} {places : List Nat}
    (h : g.phase = .active name places) :
    endFeature g =
      .ok (g.resume ((Stage.tell (among places) g.stage ⟨g.registry, .leaveFeature⟩).mapModules
        (·.closeGuard)) g.registry.endFeature .idle) := by
  simp only [endFeature, Phase.requireOpen, h]
  rfl

theorem endFeature_skipped {g : Generator ε} {name : String} (h : g.phase = .skipped name) :
    endFeature g = .ok (g.resume g.stage g.registry .idle) := by
  simp only [endFeature, Phase.requireOpen, h]
  rfl

/-- Opening guards, telling all cues of a feature and closing guards is playing its passage. -/
theorem play_feature (st : Stage ε) (places : List Nat) (f : Feature) (d : FeatureDecision)
    (r : Registry) :
    st.play (among places) (.feature f.name d (f.cues r)) =
      (Stage.tell (among places)
        (((st.mapModules (·.openGuard f.name)).tellAll (among places)
          (enterCues f (r.beginFeature f.name f.kind))).tellAll (among places)
          (elementCues (r.beginFeature f.name f.kind) f.orderedElements))
        ⟨(r.beginFeature f.name f.kind).recordAll f.orderedElements, .leaveFeature⟩).mapModules
        (·.closeGuard) := by
  have hopen : (fun m : OutputModule => m.openGuard f.name) =
      fun m => m.take (Piece.texts ((Passage.feature f.name d (f.cues r)).opening m.usesGuards)) := by
    funext m
    simp [OutputModule.openGuard_eq_take, Passage.opening, Piece.texts]
  have hclose : (fun m : OutputModule => m.closeGuard) =
      fun m => m.take (Piece.texts ((Passage.feature f.name d (f.cues r)).closing m.usesGuards)) := by
    funext m
    simp [OutputModule.closeGuard_eq_take, Passage.closing, Piece.texts]
  have hcues : f.cues r = enterCues f (r.beginFeature f.name f.kind) ++
      (elementCues (r.beginFeature f.name f.kind) f.orderedElements ++
        [⟨(r.beginFeature f.name f.kind).recordAll f.orderedElements, .leaveFeature⟩]) := rfl
  rw [hopen, hclose, Stage.play, Passage.cues, hcues, Stage.tellAll_append, Stage.tellAll_append]
  rfl

section Running

variable {m : Type → Type} [Monad m] [LawfulMonad m] [Storage m]

/-- The walk through one feature. -/
def walkFeature (f : Feature) : Generating ε m Unit := do
  (visitor : Visitor (Generating ε m) _).beginFeature f
  Schema.walkElements visitor f.orderedElements
  (visitor : Visitor (Generating ε m) _).endFeature

/-- A supported feature is played as its passage. -/
theorem runOn_walkFeature_supported {g : Generator ε} {f : Feature} (h : g.phase = .idle)
    (hs : g.gate.isSupported f.name = true) :
    runOn (walkFeature f : Generating ε m Unit) g =
      pure (.ok (), g.resume
        (g.stage.play (among (g.admitted (g.gate.evaluate f.name)))
          (.feature f.name (g.gate.evaluate f.name) (f.cues g.registry)))
        (g.registry.through g.gate f) .idle) := by
  have hbegin : runOn ((visitor : Visitor (Generating ε m) _).beginFeature f) g = _ :=
    runOn_react (beginFeature_supported h hs)
  have hend : ∀ {g' : Generator ε} {name : String} {places : List Nat},
      g'.phase = .active name places →
      runOn (visitor : Visitor (Generating ε m) _).endFeature g' =
        pure (.ok (), g'.resume
          ((Stage.tell (among places) g'.stage ⟨g'.registry, .leaveFeature⟩).mapModules
            (·.closeGuard)) g'.registry.endFeature .idle) :=
    fun h' => runOn_react (endFeature_active h')
  rw [walkFeature, runOn_bind_of_ok hbegin, runOn_bind_of_ok (runOn_walkElements_active _ _ rfl),
    hend rfl, play_feature, Registry.through, if_pos hs]
  rfl

/-- An unsupported feature leaves the stage alone. -/
theorem runOn_walkFeature_unsupported {g : Generator ε} {f : Feature} (h : g.phase = .idle)
    (hs : g.gate.isSupported f.name = false) :
    runOn (walkFeature f : Generating ε m Unit) g =
      pure (.ok (), g.resume g.stage (g.registry.through g.gate f) .idle) := by
  have hbegin : runOn ((visitor : Visitor (Generating ε m) _).beginFeature f) g = _ :=
    runOn_react (beginFeature_unsupported h hs)
  have hend : ∀ {g' : Generator ε} {name : String}, g'.phase = .skipped name →
      runOn (visitor : Visitor (Generating ε m) _).endFeature g' =
        pure (.ok (), g'.resume g'.stage g'.registry .idle) :=
    fun h' => runOn_react (endFeature_skipped h')
  rw [walkFeature, runOn_bind_of_ok hbegin, runOn_bind_of_ok (runOn_walkElements_skipped _ _ rfl),
    hend rfl, Registry.through, if_neg (by simp [hs])]
  rfl

/-! ## All features and the whole run -/

/-- Features in turn are performed as their passages, and the registry goes through all of them. -/
theorem runOn_walkFeatures (fs : List Feature) (g : Generator ε) (h : g.phase = .idle) :
    ∃ st, Performed (featurePassages g.gate g.registry fs) g.stage st ∧
      runOn (Schema.walkFeatures (visitor : Visitor (Generating ε m) _) fs) g =
        pure (.ok (),
          g.resume st (fs.foldl (Registry.through g.gate) g.registry) .idle) := by
  induction fs generalizing g with
  | nil =>
      refine ⟨g.stage, Performed.refl _, ?_⟩
      rw [List.foldl_nil, resume_self h]
      rfl
  | cons f fs ih =>
      have hwalk : Schema.walkFeatures (visitor : Visitor (Generating ε m) _) (f :: fs) =
          walkFeature f >>= fun _ => Schema.walkFeatures visitor fs := by
        simp [Schema.walkFeatures, walkFeature]
      rw [hwalk, featurePassages, List.foldl_cons]
      by_cases hs : g.gate.isSupported f.name = true
      · rw [runOn_bind_of_ok (runOn_walkFeature_supported h hs), if_pos hs]
        have hplay := performed_play g.stage
          (.feature f.name (g.gate.evaluate f.name) (f.cues g.registry))
          (admitted_selects g (g.gate.evaluate f.name))
        obtain ⟨st, hst, hrun⟩ := ih (g.resume (g.stage.play _ _) (g.registry.through g.gate f)
          .idle) rfl
        exact ⟨st, hplay.trans hst, hrun⟩
      · have hf : g.gate.isSupported f.name = false := by simpa using hs
        rw [runOn_bind_of_ok (runOn_walkFeature_unsupported h hf), if_neg hs]
        obtain ⟨st, hst, hrun⟩ := ih (g.resume g.stage (g.registry.through g.gate f) .idle) rfl
        exact ⟨st, hst, hrun⟩

/-- A step that everyone is told of, outside every feature. -/
theorem performed_everyone (st : Stage ε) (c : Cue) :
    Performed [.everyone c] st (Stage.tell (fun _ => true) st c) := by
  have hplay := performed_play st (.everyone c) (everyone_selects st.bound)
  have hsilent : st.play (fun _ => true) (.everyone c) = Stage.tell (fun _ => true) st c := by
    simp [Stage.play, Stage.mapModules, Passage.opening, Passage.closing, Passage.cues,
      Stage.tellAll]
  rwa [hsilent] at hplay

theorem beginFile_ready {g : Generator ε} (h : g.phase = .ready) :
    beginFile g =
      .ok (g.resume (Stage.tell (fun _ => true) g.stage ⟨g.registry, .start⟩) g.registry
        .idle) := by
  simp only [beginFile, h]
  rfl

theorem close_idle {g : Generator ε} (h : g.phase = .idle) :
    close g =
      .ok (g.resume (Stage.tell (fun _ => true) g.stage ⟨g.registry.finish, .finish⟩)
        g.registry.finish .spent) := by
  simp only [close, Phase.requireOpen, Phase.feature?, h]
  rfl

theorem runOn_conclude {g g' : Generator ε} (h : close g = .ok g') :
    runOn (conclude : Generating ε m GenerationReport) g = (do
      let (report, g) ← deliver g'
      pure (.ok report, g)) := by
  rw [conclude, runOn_bind_of_ok (runOn_react h), runOn_bind_of_ok (runOn_get g')]
  show runOn ((monadLift (deliver g' : m _) : Generating ε m _) >>= _) g' = _
  rw [runOn_monadLift_bind]
  congr 1
  funext result
  rw [runOn_bind_of_ok (runOn_set g' result.2)]
  rfl

/-- A whole run of a fresh generator performs the script of its schema and then delivers. -/
theorem run_eq_deliver (g : Generator ε) (s : Schema) (hready : g.phase = .ready)
    (hfresh : g.registry = {}) (hs : s.validate = .ok ()) :
    ∃ st, Performed (s.script g.gate) g.stage st ∧
      g.run s = (do
        let (report, g') ← deliver (g.resume st (s.finalRegistry g.gate) .spent)
        pure (.ok report, g') : m _) := by
  obtain ⟨st, hst, hrun⟩ := runOn_walkFeatures (m := m) s.features
    (g.resume (Stage.tell (fun _ => true) g.stage ⟨{}, .start⟩) {} .idle) rfl
  refine ⟨Stage.tell (fun _ => true) st ⟨s.finalRegistry g.gate, .finish⟩, ?_, ?_⟩
  · -- The script is its first passage, those of the features, and its last.
    have hbegun := performed_everyone g.stage ⟨{}, .start⟩
    exact hbegun.trans (hst.trans (performed_everyone st _))
  · have hbegin := beginFile_ready hready
    rw [hfresh] at hbegin
    have hstart : runOn (visitor : Visitor (Generating ε m) _).beginFile g = _ :=
      runOn_react hbegin
    have hgenerate : (generate s : Generating ε m GenerationReport) = s.walk visitor := by
      rw [generate, hs]
    rw [run, hgenerate, Schema.walk, runOn_bind_of_ok hstart, runOn_bind_of_ok hrun]
    exact runOn_conclude (close_idle rfl)

end Running

end VulkanWire.Generator
