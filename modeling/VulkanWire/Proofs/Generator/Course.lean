import VulkanWire.Proofs.Generator.History

/-!
# The course of a schema

The events of a schema come in an order that a generator never refuses: between
the beginning and the end of the file it welcomes every one of them. So a whole
run is nothing but the fold of the schema's events, with a delivery at its end,
and what holds of all sequences of events holds of runs.

## Main definitions

* `Generator.Welcomes` — events none of which is refused.

## Main results

* `runOn_react_of_welcomes` — welcome events are a fold.
* `run_invalid` — a schema that is not valid is refused before the first event.
* `run_eq_endFile` — a whole run is its events and then the end of the file.
-/

namespace VulkanWire.Generator

variable {ε : Type} [Emitter ε]

/-- A generator accepts events one after the other, and the file does not end. -/
def Welcomes (g : Generator ε) : List Event → Prop
  | [] => True
  | e :: es => e ≠ .endFile ∧ g.phase.refusal? e = none ∧ (g.next e).Welcomes es

variable {g : Generator ε}

theorem welcomes_append {es fs : List Event} (h : g.Welcomes es)
    (h' : (es.foldl next g).Welcomes fs) : g.Welcomes (es ++ fs) := by
  induction es generalizing g with
  | nil => exact h'
  | cons e es ih => exact ⟨h.1, h.2.1, ih h.2.2 h'⟩

section Running

variable {m : Type → Type} [Monad m] [LawfulMonad m] [Storage m]

theorem runOn_onInner {e : Event} (hinner : e ≠ .endFile) (h : g.phase.refusal? e = none) :
    runOn ((visitor : Visitor (Generating ε m) _).onInner e) g = pure (.ok (), g.next e) := by
  have hadvance := advance_of_accepted h
  rw [next_of_accepted h]
  cases e with
  | endFile => exact absurd rfl hinner
  | _ => exact runOn_react hadvance

/-- Reacting to welcome events is folding them. -/
theorem runOn_react_of_welcomes {es : List Event} (h : g.Welcomes es) :
    runOn (Schema.react (visitor : Visitor (Generating ε m) _) es) g =
      pure (.ok (), es.foldl next g) := by
  induction es generalizing g with
  | nil => rfl
  | cons e es ih =>
      rw [Schema.react, runOn_bind_of_ok (runOn_onInner h.1 h.2.1)]
      exact ih h.2.2

end Running

/-! ## The events of a schema -/

/-- Inside a feature definitions are welcome, and they do not end it. -/
theorem welcomes_elements {feature : String} (es : List Element)
    (h : g.phase.feature? = some feature) :
    g.Welcomes (es.map .element) ∧ ((es.map .element).foldl next g).phase = g.phase := by
  induction es generalizing g with
  | nil => exact ⟨trivial, rfl⟩
  | cons e es ih =>
      have haccepted : g.phase.refusal? (.element e) = none := by
        cases hp : g.phase <;> rw [hp] at h <;> cases h <;> rfl
      have hphase : (g.next (.element e)).phase = g.phase := by
        rw [next_of_accepted haccepted, phase_after, turn, elementTurn]
        split <;> simp_all
      obtain ⟨hrest, hend⟩ := ih (g := g.next (.element e)) (hphase ▸ h)
      exact ⟨⟨by simp, haccepted, hrest⟩, hend.trans hphase⟩

/-- Between features a whole feature is welcome. -/
theorem welcomes_feature (f : Feature) (h : g.phase = .idle) :
    g.Welcomes f.events ∧ (f.events.foldl next g).phase = .idle := by
  have hbegin : g.phase.refusal? (.beginFeature f) = none := Phase.refusal?_beginFeature.mpr h
  have hinside : (g.next (.beginFeature f)).phase.feature? = some f.name := by
    rw [next_of_accepted hbegin, phase_after, turn, featureTurn]
    split <;> rfl
  obtain ⟨helements, hphase⟩ := welcomes_elements f.orderedElements hinside
  -- The definitions leave the generator inside the feature, so its end is welcome.
  have hend : ((f.orderedElements.map .element).foldl next
      (g.next (.beginFeature f))).phase.refusal? .endFeature = none := by
    rw [hphase]
    cases hp : (g.next (.beginFeature f)).phase <;> rw [hp] at hinside <;> cases hinside <;> rfl
  constructor
  · exact ⟨by simp, hbegin, welcomes_append helements ⟨by simp, hend, trivial⟩⟩
  · rw [Feature.events, List.foldl_cons, List.foldl_append, List.foldl_cons, List.foldl_nil,
      next_of_accepted hend, phase_after, turn, leaveTurn]
    split <;> rfl

theorem welcomes_features (fs : List Feature) (h : g.phase = .idle) :
    g.Welcomes (fs.flatMap (·.events)) ∧ ((fs.flatMap (·.events)).foldl next g).phase = .idle := by
  induction fs generalizing g with
  | nil => exact ⟨trivial, h⟩
  | cons f fs ih =>
      obtain ⟨hfirst, hbetween⟩ := welcomes_feature f h
      obtain ⟨hrest, hend⟩ := ih hbetween
      rw [List.flatMap_cons]
      exact ⟨welcomes_append hfirst hrest, by rw [List.foldl_append, hend]⟩

/-- A generator that has heard nothing welcomes the events of every schema. -/
theorem welcomes_innerEvents (s : Schema) (h : g.phase = .ready) :
    g.Welcomes s.innerEvents ∧ (s.innerEvents.foldl next g).phase = .idle := by
  have hbegin : g.phase.refusal? .beginFile = none := Phase.refusal?_beginFile.mpr h
  have hidle : (g.next .beginFile).phase = .idle := by
    rw [next_of_accepted hbegin, phase_after]
    rfl
  obtain ⟨hrest, hend⟩ := welcomes_features s.features hidle
  exact ⟨⟨by simp, hbegin, hrest⟩, hend⟩

/-- A schema that is not valid is refused before anything happens. -/
theorem run_invalid {m : Type → Type} [Monad m] [Storage m] {s : Schema} (g : Generator ε)
    {fault : SchemaError} (h : s.validate = .error fault) :
    (g.run s : m _) = pure (.error (.schema fault), g) := by
  rw [run, generate, h]
  rfl

/-- A whole run of a valid schema is its events one after the other and then the end of the
file. -/
theorem run_eq_endFile {m : Type → Type} [Monad m] [LawfulMonad m] [Storage m] {s : Schema}
    (h : g.phase = .ready) (hs : s.validate = .ok ()) :
    g.run s = runOn (visitor : Visitor (Generating ε m) _).endFile (s.innerEvents.foldl next g) := by
  have hgenerate : (generate s : Generating ε m GenerationReport) = s.walk visitor := by
    rw [generate, hs]
  rw [run, hgenerate, Schema.walk_events,
    runOn_bind_of_ok (runOn_react_of_welcomes (welcomes_innerEvents s h).1)]

end VulkanWire.Generator
