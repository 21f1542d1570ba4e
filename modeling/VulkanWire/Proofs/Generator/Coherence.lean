import VulkanWire.Proofs.Generator.Text
import VulkanWire.Proofs.Generator.History
import VulkanWire.Proofs.Generator.Origins

/-!
# Coherent generators

Whatever events an assembled generator is told of, its parts agree: every
place refers to something, the admitted emitters are those the gate decided on,
the registry is in the feature the phase is in, modules are finalized exactly
in the last phase, guards come in pairs, and suppressed modules stay empty.

## Main definitions

* `InStep` — the registry agrees with the phase.
* `Coherent` — all parts agree.

## Main results

* `inStep_after` — an accepted event keeps the registry in step.
* `phase_next_eq_active` — where the admitted places come from.
* `assembled_stays_coherent` — any events leave an assembled generator coherent.
-/

namespace VulkanWire

/-! ## The registry and the phase -/

namespace Generator

variable {ε : Type}

/-- The registry is in the supported feature that the phase is in, and finished in the last
phase. -/
structure InStep (r : Registry) (p : Phase) : Prop where
  current : r.currentFeature? = p.current?
  finished : r.finished = decide (p = .spent)

variable [Emitter ε] {g : Generator ε} {e : Event}

theorem inStep_turn (hr : g.phase.refusal? e = none) (h : InStep g.registry g.phase) :
    InStep (g.turn e).registry (g.turn e).phase := by
  cases e with
  | beginFile =>
      rw [Phase.refusal?_beginFile.mp hr] at h
      exact ⟨h.current, h.finished⟩
  | beginFeature f =>
      rw [Phase.refusal?_beginFeature.mp hr] at h
      rw [turn, featureTurn]
      split
      · exact ⟨rfl, h.finished⟩
      · exact ⟨h.current, h.finished⟩
  | element e =>
      rw [turn, elementTurn]
      split
      · rename_i feature places hp
        rw [hp] at h
        exact ⟨(currentFeature?_record e).trans h.current,
          (finished_record e).trans h.finished⟩
      · dsimp only
        split
        · exact ⟨h.current, h.finished⟩
        · exact h
  | endFeature =>
      rcases Phase.refusal?_endFeature.mp hr with ⟨feature, places, hp⟩ | ⟨feature, hp⟩
      · rw [hp] at h
        rw [turn, leaveTurn, hp]
        exact ⟨rfl, h.finished⟩
      · rw [hp] at h
        rw [turn, leaveTurn, hp]
        exact ⟨h.current, h.finished⟩
  | endFile =>
      rw [Phase.refusal?_endFile.mp hr] at h
      exact ⟨h.current, rfl⟩

theorem registry_after (g : Generator ε) (e : Event) :
    (g.after e).registry = (g.turn e).registry := by
  cases e <;> rfl

theorem inStep_after (hr : g.phase.refusal? e = none) (h : InStep g.registry g.phase) :
    InStep (g.after e).registry (g.after e).phase := by
  rw [registry_after, phase_after]
  exact inStep_turn hr h

/-! ## What no event changes -/

theorem Turn.bound_perform (t : Turn) (st : Stage ε) :
    (t.perform st).bound =
      st.bound.mapIdx fun i b =>
        if t.selected i then t.cues.foldl (fun b c => hear c b) b else b := by
  obtain ⟨opens?, selected, cues, closes, registry, phase⟩ := t
  cases opens? <;> cases closes <;> exact Stage.bound_tellAll _ _ _

theorem bound_after (g : Generator ε) (e : Event) :
    (g.after e).bound = ((g.turn e).perform g.stage).bound := by
  cases e <;> rfl

/-- What emitters keep when they hear a cue, they keep through every event. -/
theorem map_bound_after {α : Type} {key : BoundEmitter ε → α}
    (hkey : ∀ c b, key (hear c b) = key b) (g : Generator ε) (e : Event) :
    (g.after e).bound.map key = g.bound.map key := by
  have hcues : ∀ (cues : List Cue) (b : BoundEmitter ε),
      key (cues.foldl (fun b c => hear c b) b) = key b := by
    intro cues
    induction cues with
    | nil => exact fun _ => rfl
    | cons c cues ih => exact fun b => (ih _).trans (hkey c b)
  rw [bound_after, Turn.bound_perform]
  apply List.ext_getElem?
  intro i
  simp only [List.getElem?_map, List.getElem?_mapIdx, Option.map_map, stage]
  congr 1
  funext b
  rw [Function.comp_apply]
  split
  · exact hcues _ b
  · rfl

/-- What no event changes. -/
structure Kept (g g' : Generator ε) : Prop where
  gate : g'.gate = g.gate
  /-- The modules stay where they are. -/
  modules : g'.modules.length = g.modules.length
  /-- Every emitter stays with its module. -/
  places : g'.bound.map (·.place) = g.bound.map (·.place)
  /-- Emitters that never change their kind have the one they had. -/
  kinds : (∀ r c (e : ε), Emitter.kind (Emitter.respond r c e).2 = Emitter.kind e) →
    g'.bound.map (fun b => Emitter.kind b.emitter) = g.bound.map fun b => Emitter.kind b.emitter

theorem Kept.refl (g : Generator ε) : Kept g g := ⟨rfl, rfl, rfl, fun _ => rfl⟩

theorem Kept.trans {g g' g'' : Generator ε} (h : Kept g g') (h' : Kept g' g'') : Kept g g'' where
  gate := h'.gate.trans h.gate
  modules := h'.modules.trans h.modules
  places := h'.places.trans h.places
  kinds hkind := (h'.kinds hkind).trans (h.kinds hkind)

theorem Kept.length_bound {g g' : Generator ε} (h : Kept g g') :
    g'.bound.length = g.bound.length := by
  simpa using congrArg List.length h.places

theorem kept_after (g : Generator ε) (e : Event) : Kept g (g.after e) where
  gate := by cases e <;> rfl
  modules := by rw [modules_after, List.length_mapIdx]
  places := map_bound_after (fun _ _ => rfl) g e
  kinds hkind := map_bound_after (fun c b => hkind c.registry c.callback b.emitter) g e

theorem kept_foldl (g : Generator ε) (events : List Event) : Kept g (events.foldl next g) :=
  foldl_next_induction (P := Kept g) (fun _ h => h.trans (kept_after _ _)) (Kept.refl g) events

/-! ## The admitted emitters -/

theorem mem_admitted {d : FeatureDecision} {i : Nat} :
    i ∈ g.admitted d ↔ ∃ b, g.bound[i]? = some b ∧ d.admits (Emitter.kind b.emitter) = true := by
  rw [admitted, List.mem_filter, List.mem_range, Option.any_eq_true]
  constructor
  · rintro ⟨-, b, hb, hadmits⟩
    exact ⟨b, hb, hadmits⟩
  · rintro ⟨b, hb, hadmits⟩
    exact ⟨(List.getElem?_eq_some_iff.mp hb).1, b, hb, hadmits⟩

/-- Places are listed in ascending order. -/
theorem pairwise_admitted (g : Generator ε) (d : FeatureDecision) :
    (g.admitted d).Pairwise (· < ·) :=
  List.pairwise_lt_range.filter _

/-- Which emitters a decision admits depends on their kinds alone. -/
theorem admitted_congr {g' : Generator ε}
    (hkinds : g'.bound.map (fun b => Emitter.kind b.emitter) =
      g.bound.map fun b => Emitter.kind b.emitter) (d : FeatureDecision) :
    g'.admitted d = g.admitted d := by
  have hlength : g'.bound.length = g.bound.length := by simpa using congrArg List.length hkinds
  rw [admitted, admitted, hlength]
  apply List.filter_congr
  intro i _
  have hkind := congrArg (fun kinds => kinds[i]?.any d.admits) hkinds
  simp only [List.getElem?_map, Option.any_map] at hkind
  exact hkind

/-- A generator is in a supported feature because it was or because the feature has just begun. -/
theorem phase_next_eq_active {feature : String} {places : List Nat}
    (h : (g.next e).phase = .active feature places) :
    g.phase = .active feature places ∨
      ∃ f, e = .beginFeature f ∧ f.name = feature ∧
        places = g.admitted (g.gate.evaluate feature) := by
  cases hr : g.phase.refusal? e with
  | some fault =>
      rw [next_of_refused hr] at h
      exact .inl h
  | none =>
      rw [next_of_accepted hr, phase_after] at h
      cases e with
      | beginFile => cases h
      | beginFeature f =>
          rw [turn, featureTurn] at h
          split at h
          · injection h with hname hplaces
            exact .inr ⟨f, rfl, hname, by rw [← hplaces, ← hname]⟩
          · cases h
      | element e =>
          rw [turn, elementTurn] at h
          split at h
          · rename_i hp
            exact .inl (hp.trans h)
          · exact .inl h
      | endFeature =>
          rw [turn, leaveTurn] at h
          split at h <;> cases h
      | endFile => cases h

/-- The admitted places were decided when the feature began. -/
theorem exists_of_phase_foldl {feature : String} {places : List Nat} {events : List Event}
    (h : (events.foldl next g).phase = .active feature places) :
    g.phase = .active feature places ∨
      ∃ earlier f later, events = earlier ++ .beginFeature f :: later ∧ f.name = feature ∧
        places = (earlier.foldl next g).admitted (g.gate.evaluate feature) := by
  induction events generalizing g with
  | nil => exact .inl h
  | cons e events ih =>
      rcases ih h with hhere | ⟨earlier, f, later, rfl, hname, hplaces⟩
      · rcases phase_next_eq_active hhere with hbefore | ⟨f, rfl, hname, hplaces⟩
        · exact .inl hbefore
        · exact .inr ⟨[], f, events, rfl, hname, hplaces⟩
      · have hgate : (g.next e).gate = g.gate := (kept_foldl g [e]).gate
        rw [hgate] at hplaces
        exact .inr ⟨e :: earlier, f, later, rfl, hname, hplaces⟩

/-! ## All parts together -/

/-- All parts of a generator agree, once it has been told of events since its assembly as `g₀`;
`keep` names the only module that is not suppressed, if there is one. -/
structure Coherent (gate : FeatureGate) (keep : Option String) (g₀ : Generator ε)
    (events : List Event) (g : Generator ε) : Prop where
  /-- Every emitter's module is there. -/
  places : ∀ b ∈ g.bound, b.place < g.modules.length
  /-- The admitted emitters are there, each once and in binding order. -/
  admitted : ∀ feature admitted, g.phase = .active feature admitted →
    (∀ i ∈ admitted, i < g.bound.length) ∧ admitted.Pairwise (· < ·)
  /-- They are those whose kind the gate admitted when the feature began. -/
  decided : ∀ feature admitted, g.phase = .active feature admitted →
    ∃ earlier f later, events = earlier ++ .beginFeature f :: later ∧ f.name = feature ∧
      ∀ i, i ∈ admitted ↔ ∃ b, (earlier.foldl next g₀).bound[i]? = some b ∧
        (gate.evaluate feature).admits (Emitter.kind b.emitter) = true
  /-- And so they are at any time if emitters never change their kind. -/
  kinds : (∀ r c (e : ε), Emitter.kind (Emitter.respond r c e).2 = Emitter.kind e) →
    ∀ feature admitted, g.phase = .active feature admitted →
      ∀ i, i ∈ admitted ↔ ∃ b, g.bound[i]? = some b ∧
        (gate.evaluate feature).admits (Emitter.kind b.emitter) = true
  /-- The registry is in the supported feature that the generator is in, or in none. -/
  current : ∀ feature, g.registry.currentFeature? = some feature ↔
    ∃ admitted, g.phase = .active feature admitted
  /-- The registry is finished in the last phase only. -/
  finished : g.registry.finished = true ↔ g.phase = .spent
  /-- All modules are finalized in the last phase, and none before. -/
  finalized : ∀ m ∈ g.modules, m.finalized = true ↔ g.phase = .spent
  /-- The text of a guarded module is its history, whose guards come in pairs. -/
  guards : ∀ place m, g.modules[place]? = some m → m.suppressed = false → m.usesGuards = true →
    m.text = Stroke.texts true (g₀.history place events) ∧
    (g₀.history place events).countP Stroke.isOpened =
      (g₀.history place events).countP Stroke.isClosed +
        (if g.phase.current?.isSome then 1 else 0) ∧
    ∀ earlier, earlier <+: g₀.history place events →
      earlier.countP Stroke.isClosed ≤ earlier.countP Stroke.isOpened ∧
        earlier.countP Stroke.isOpened ≤ earlier.countP Stroke.isClosed + 1
  /-- Every module but the one to keep is empty. -/
  silent : ∀ name, keep = some name → ∀ m ∈ g.modules, m.name ≠ name →
    m.header = "" ∧ m.implementation = ""

/-! ### What assembly starts from -/

/-- A generator that has heard nothing; `keep` names the only module that is not suppressed, if
there is one. -/
structure Fresh (gate : FeatureGate) (keep : Option String) (g : Generator ε) : Prop where
  gate : g.gate = gate
  phase : g.phase = .ready
  registry : g.registry = {}
  places : ∀ b ∈ g.bound, b.place < g.modules.length
  empty : ∀ m ∈ g.modules, m.text = .silent
  unfinalized : ∀ m ∈ g.modules, m.finalized = false
  suppressed : ∀ name, keep = some name → ∀ m ∈ g.modules, m.name ≠ name → m.suppressed = true

variable {o : GeneratorOptions} {gate : FeatureGate} {specs : List ModuleSpec}
  {bindings : List (Binding ε)}

theorem fresh_of_assemble {g : Generator ε} (hg : assemble o gate specs bindings = .ok g) :
    Fresh gate o.suppressExcept g := by
  obtain ⟨hsound, rfl⟩ := assemble_eq_ok_iff.mp hg
  have hmodule : ∀ m ∈ (assembled o gate specs bindings).modules,
      m.text = .silent ∧ m.finalized = false ∧
        ∀ name, o.suppressExcept = some name → m.name ≠ name → m.suppressed = true := by
    intro m hm
    obtain ⟨m₀, hm₀, suppressed, rfl, hsuppressed⟩ := exists_of_mem_suppress hm
    obtain ⟨spec, -, rfl⟩ := List.mem_map.mp hm₀
    exact ⟨rfl, rfl, hsuppressed⟩
  have hlength :
      (assembled o gate specs bindings).modules.length = (specs.map (·.name)).length := by
    rw [← map_name_assembled o gate specs bindings, List.length_map]
  exact {
    gate := rfl
    phase := rfl
    registry := rfl
    places := by
      intro b hb
      obtain ⟨binding, hbinding, rfl⟩ := List.mem_map.mp hb
      rw [hlength]
      exact List.idxOf_lt_length_of_mem (hsound.known binding hbinding)
    empty := fun m hm => (hmodule m hm).1
    unfinalized := fun m hm => (hmodule m hm).2.1
    suppressed := fun name hname m hm => (hmodule m hm).2.2 name hname }

/-! ### What any events leave -/

namespace Fresh

variable {keep : Option String} {g₀ : Generator ε} (h : Fresh gate keep g₀) {events : List Event}
include h

omit [Emitter ε] in
theorem settled : g₀.Settled := by
  intro m hm
  rw [h.unfinalized m hm, h.phase]
  rfl

theorem inStep_foldl (events : List Event) :
    InStep (events.foldl next g₀).registry (events.foldl next g₀).phase := by
  refine foldl_next_induction (P := fun g => InStep g.registry g.phase) inStep_after ?_ events
  rw [h.registry, h.phase]
  exact ⟨rfl, rfl⟩

/-- Every module has gathered its history since it was fresh. -/
theorem gathers {place : Nat} {m : OutputModule}
    (hm : (events.foldl next g₀).modules[place]? = some m) :
    ∃ m₀ ∈ g₀.modules, Gathers (g₀.history place events) m₀ m := by
  obtain ⟨m₀, hm₀, hgathers⟩ := gathers_history h.settled events hm
  exact ⟨m₀, List.mem_of_getElem? hm₀, hgathers⟩

theorem paired (place : Nat) (events : List Event) :
    Paired (g₀.history place events) (events.foldl next g₀).phase.current? := by
  have hclosed : Paired [] g₀.phase.current? := by
    rw [h.phase]
    exact .nil
  exact paired_history hclosed place events

/-- The admitted places were decided when the feature began. -/
theorem exists_of_active {feature : String} {places : List Nat}
    (hphase : (events.foldl next g₀).phase = .active feature places) :
    ∃ earlier f later, events = earlier ++ .beginFeature f :: later ∧ f.name = feature ∧
      places = (earlier.foldl next g₀).admitted (gate.evaluate feature) := by
  rcases exists_of_phase_foldl hphase with hactive | hdecided
  · rw [h.phase] at hactive
    cases hactive
  · rwa [h.gate] at hdecided

/-- Any events leave a fresh generator coherent. -/
theorem coherent (events : List Event) : Coherent gate keep g₀ events (events.foldl next g₀) where
  places := by
    have hkept := kept_foldl g₀ events
    intro b hb
    have hplace : b.place ∈ g₀.bound.map (·.place) := by
      rw [← hkept.places]
      exact List.mem_map_of_mem hb
    obtain ⟨b₀, hb₀, hsame⟩ := List.mem_map.mp hplace
    rw [hkept.modules, ← hsame]
    exact h.places b₀ hb₀
  admitted := by
    intro feature places hphase
    obtain ⟨earlier, f, later, hevents, -, rfl⟩ := h.exists_of_active hphase
    refine ⟨?_, pairwise_admitted _ _⟩
    intro i hi
    obtain ⟨b, hb, -⟩ := mem_admitted.mp hi
    have hlength : (events.foldl next g₀).bound.length = (earlier.foldl next g₀).bound.length := by
      rw [(kept_foldl g₀ events).length_bound, (kept_foldl g₀ earlier).length_bound]
    rw [hlength]
    exact (List.getElem?_eq_some_iff.mp hb).1
  decided := by
    intro feature places hphase
    obtain ⟨earlier, f, later, hevents, hname, rfl⟩ := h.exists_of_active hphase
    exact ⟨earlier, f, later, hevents, hname, fun i => mem_admitted⟩
  kinds := by
    intro hkind feature places hphase i
    obtain ⟨earlier, f, later, -, -, rfl⟩ := h.exists_of_active hphase
    have hkinds := ((kept_foldl g₀ earlier).kinds hkind).trans
      ((kept_foldl g₀ events).kinds hkind).symm
    rw [admitted_congr hkinds]
    exact mem_admitted
  current := by
    intro feature
    rw [(h.inStep_foldl events).current]
    cases (events.foldl next g₀).phase <;> simp [Phase.current?]
  finished := by rw [(h.inStep_foldl events).finished, decide_eq_true_eq]
  finalized := by
    intro m hm
    rw [settled_foldl h.settled events m hm, decide_eq_true_eq]
  guards := by
    intro place m hm hsuppressed hguards
    obtain ⟨m₀, hm₀, hgathers⟩ := h.gathers hm
    have hpaired := h.paired place events
    refine ⟨?_, hpaired.count, fun earlier => hpaired.count_of_prefix⟩
    have hguarded : m₀.usesGuards = true := by
      rw [← hguards, OutputModule.usesGuards, OutputModule.usesGuards, hgathers.spec]
    rw [hgathers.text, ← hgathers.suppressed, hsuppressed, h.empty m₀ hm₀, hguarded]
    exact Emission.silent_append _
  silent := by
    intro name hkeep m hm hne
    obtain ⟨place, hplace⟩ := List.mem_iff_getElem?.mp hm
    obtain ⟨m₀, hm₀, hgathers⟩ := h.gathers hplace
    have hname : m₀.name ≠ name := by
      rw [OutputModule.name, ← hgathers.spec]
      exact hne
    have htext := hgathers.text
    rw [h.suppressed name hkeep m₀ hm₀ hname, h.empty m₀ hm₀] at htext
    exact Emission.mk.inj htext

end Fresh

/-- Any events, accepted or refused, leave an assembled generator coherent. -/
theorem assembled_stays_coherent {g₀ : Generator ε} (hg : assemble o gate specs bindings = .ok g₀)
    (events : List Event) (d : Disk) :
    ∃ replies g d', ((calls events).run g₀ : OnDisk _).run d = ((replies, g), d') ∧
      Coherent gate o.suppressExcept g₀ events g := by
  obtain ⟨replies, d', hrun⟩ := calls_run events g₀ d
  exact ⟨replies, _, d', hrun, (fresh_of_assemble hg).coherent events⟩

/-- Events in and out of order, the last of them inside the supported feature. -/
def strayEvents : List Event := [
  .endFile, .beginFile, .beginFile,
  .beginFeature { name := "VK_EXT_more" }, .element (.type { name := "int" }), .endFile,
  .endFeature, .endFeature,
  .beginFeature { name := "VK_VERSION_1_0" }, .element (.command { name := "vkDoIt" }), .beginFile]

/-- The small table, of which the guarded module is kept, told of stray events. -/
theorem assembled_stays_coherent_sample :
    ∃ replies g d',
      ((calls strayEvents).run (assembled { outputDir := "out", suppressExcept := some "alpha" }
          sampleGate sampleSpecs sampleBindings) : OnDisk _).run ⟨[], []⟩ = ((replies, g), d') ∧
      Coherent sampleGate (some "alpha") (assembled
          { outputDir := "out", suppressExcept := some "alpha" }
          sampleGate sampleSpecs sampleBindings) strayEvents g :=
  have hsound : Sound (some "alpha") sampleSpecs sampleBindings := {
    distinct := sample_sound.distinct
    known := sample_sound.known
    kept := by
      intro name hname
      injection hname with hname
      rw [← hname]
      decide }
  assembled_stays_coherent (assemble_eq_ok_iff.mpr ⟨hsound, rfl⟩) strayEvents ⟨[], []⟩

/-- Stray events leave the small table in the supported feature, with all emitters admitted. -/
example : (strayEvents.foldl next (assembled { outputDir := "out", suppressExcept := some "alpha" }
    sampleGate sampleSpecs sampleBindings)).phase = .active "VK_VERSION_1_0" [0, 1, 2] := by
  decide

end Generator

end VulkanWire
