import VulkanWire.Proofs.Generator.Delivery
import VulkanWire.Proofs.Generator.Traversal

/-!
# The protocol of events

A generator may be told of any event at any time. `Phase.refusal?` is the whole
protocol: what a phase refuses, and with which fault. A refused event does
nothing at all; an accepted one takes a turn, and every turn has one shape:
guards open, some emitters are told some cues, guards close, and registry and
phase move on. The end of the file also delivers. So the generator after any
sequence of events is a fold, which no file operation has a say in.

## Main definitions

* `Phase.refusal?` — the protocol.
* `Generator.turn` — what an accepted event does.
* `Generator.calls` — events one after the other, also after a refusal.

## Main results

* `advance_of_refused`, `advance_of_accepted` — the reaction to an event.
* `calls_run` — what any sequence of events leaves behind.
* `refused_events_do_nothing` — the protocol is kept, and a sequence has the
  effect of its accepted events.
-/

namespace VulkanWire

/-- How faults name an event. -/
def Event.label : Event → String
  | .beginFile => "begin-file"
  | .beginFeature _ => "begin-feature"
  | .element e => e.category.eventName
  | .endFeature => "end-feature"
  | .endFile => "end-file"

/-- The reaction to any event; the last one of a traversal yields the outcome. -/
def Visitor.on {m : Type → Type} {ω : Type} [Monad m] (v : Visitor m ω) : Event → m (Option ω)
  | .endFile => do return some (← v.endFile)
  | e => do
    v.onInner e
    return none

/-! ## What a phase refuses -/

namespace Phase

/-- Why an event cannot come between features, if it cannot. -/
def refusalBetween? : Event → Option GenerationFault
  | .beginFile => some (.lifecycle .alreadyStarted)
  | .endFeature => some (.guard .unmatchedEnd)
  | _ => none

/-- Why an event cannot come inside a feature, if it cannot. -/
def refusalWithin? (feature : String) : Event → Option GenerationFault
  | .beginFile => some (.lifecycle .alreadyStarted)
  | .beginFeature next => some (.guard (.nestedFeature feature next.name))
  | .endFile => some (.guard (.unclosedFeature feature))
  | _ => none

/-- Why a phase refuses an event, if it does. -/
def refusal? : Phase → Event → Option GenerationFault
  | ready, .beginFile => none
  | ready, e => some (.lifecycle (.notStarted e.label))
  | idle, e => refusalBetween? e
  | active feature _, e => refusalWithin? feature e
  | skipped feature, e => refusalWithin? feature e
  | spent, e => some (.lifecycle (.spent e.label))

variable {p : Phase}

theorem refusal?_beginFile : p.refusal? .beginFile = none ↔ p = .ready := by
  cases p <;> simp [refusal?, refusalBetween?, refusalWithin?]

theorem refusal?_beginFeature {f : Feature} : p.refusal? (.beginFeature f) = none ↔ p = .idle := by
  cases p <;> simp [refusal?, refusalBetween?, refusalWithin?]

theorem refusal?_element {e : Element} :
    p.refusal? (.element e) = none ↔ p ≠ .ready ∧ p ≠ .spent := by
  cases p <;> simp [refusal?, refusalBetween?, refusalWithin?]

theorem refusal?_endFeature :
    p.refusal? .endFeature = none ↔
      (∃ feature places, p = .active feature places) ∨ ∃ feature, p = .skipped feature := by
  cases p <;> simp [refusal?, refusalBetween?, refusalWithin?]

theorem refusal?_endFile : p.refusal? .endFile = none ↔ p = .idle := by
  cases p <;> simp [refusal?, refusalBetween?, refusalWithin?]

/-- After the end of the file nothing is accepted. -/
theorem ne_spent_of_accepted {e : Event} (h : p.refusal? e = none) : p ≠ .spent := by
  rintro rfl
  cases h

end Phase

namespace Generator

variable {ε : Type} [Emitter ε]

/-! ## Turns -/

/-- What an accepted event does. -/
structure Turn where
  /-- The feature whose guard is opened first. -/
  opens? : Option String := none
  /-- The emitters that are told of the cues. -/
  selected : Nat → Bool := fun _ => false
  cues : List Cue := []
  /-- Whether the guards are closed in the end. -/
  closes : Bool := false
  registry : Registry
  phase : Phase

/-- A stage after a turn. -/
def Turn.perform (t : Turn) (st : Stage ε) : Stage ε :=
  let opened := match t.opens? with
    | some feature => st.mapModules (·.openGuard feature)
    | none => st
  let told := opened.tellAll t.selected t.cues
  if t.closes then told.mapModules (·.closeGuard) else told

variable (g : Generator ε)

/-- The generator after a turn. -/
def perform (t : Turn) : Generator ε := g.resume (t.perform g.stage) t.registry t.phase

/-- The turn for a feature that begins. -/
def featureTurn (f : Feature) : Turn :=
  if g.gate.isSupported f.name then
    let places := g.admitted (g.gate.evaluate f.name)
    let entered := g.registry.beginFeature f.name f.kind
    { opens? := some f.name
      selected := among places
      cues := enterCues f entered
      registry := entered
      phase := .active f.name places }
  else { registry := g.registry, phase := .skipped f.name }

/-- The turn for a definition. -/
def elementTurn (e : Element) : Turn :=
  match g.phase with
  | .active feature places =>
    { selected := among places
      cues := [⟨g.registry.record e, .element e⟩]
      registry := g.registry.record e
      phase := .active feature places }
  | phase =>
    { registry := if g.keeps e then g.registry.recordUnder phase.feature? e else g.registry
      phase }

/-- The turn for a feature that ends. -/
def leaveTurn : Turn :=
  match g.phase with
  | .active _ places =>
    { selected := among places
      cues := [⟨g.registry, .leaveFeature⟩]
      closes := true
      registry := g.registry.endFeature
      phase := .idle }
  | _ => { registry := g.registry, phase := .idle }

/-- The turn for an event. -/
def turn : Event → Turn
  | .beginFile =>
    { selected := fun _ => true
      cues := [⟨g.registry, .start⟩]
      registry := g.registry
      phase := .idle }
  | .beginFeature f => g.featureTurn f
  | .element e => g.elementTurn e
  | .endFeature => g.leaveTurn
  | .endFile =>
    { selected := fun _ => true
      cues := [⟨g.registry.finish, .finish⟩]
      registry := g.registry.finish
      phase := .spent }

/-! ## Reactions -/

/-- The reaction to an event, before anything is delivered. -/
def advance : Event → Except GenerationFault (Generator ε)
  | .beginFile => g.beginFile
  | .beginFeature f => g.beginFeature f
  | .element e => g.define e
  | .endFeature => g.endFeature
  | .endFile => g.close

variable {g} {e : Event}

/-- A refused event is answered with the fault that the protocol names. -/
theorem advance_of_refused {fault : GenerationFault} (h : g.phase.refusal? e = some fault) :
    g.advance e = .error fault := by
  cases e with
  | beginFile =>
      rw [advance, beginFile]
      cases hp : g.phase <;> rw [hp] at h <;> cases h <;> rfl
  | beginFeature f =>
      rw [advance, beginFeature]
      cases hp : g.phase <;> rw [hp] at h <;> cases h <;> rfl
  | element e =>
      rw [advance, define]
      cases hp : g.phase <;> rw [hp] at h <;> cases h <;> rfl
  | endFeature =>
      rw [advance, endFeature]
      cases hp : g.phase <;> rw [hp] at h <;> cases h <;> rfl
  | endFile =>
      rw [advance, close]
      cases hp : g.phase <;> rw [hp] at h <;> cases h <;> rfl

/-- Outside a supported feature, a definition that is accepted moves the registry at most. -/
theorem define_outside {e : Element} (hopen : g.phase.requireOpen e.category.eventName = .ok ())
    (h : ∀ feature places, g.phase ≠ .active feature places) :
    define e g =
      .ok (g.resume g.stage
        (if g.keeps e then g.registry.recordUnder g.phase.feature? e else g.registry) g.phase) := by
  have hdefine : define e g =
      if g.keeps e then .ok { g with registry := g.registry.recordUnder g.phase.feature? e }
      else .ok g := by
    rw [define, hopen]
    cases hp : g.phase with
    | active feature places => exact absurd hp (h feature places)
    | _ => rfl
  rw [hdefine]
  split <;> rfl

/-- An accepted event takes its turn. -/
theorem advance_of_accepted (h : g.phase.refusal? e = none) :
    g.advance e = .ok (g.perform (g.turn e)) := by
  cases e with
  | beginFile =>
      have hp : g.phase = .ready := Phase.refusal?_beginFile.mp h
      exact beginFile_ready hp
  | beginFeature f =>
      have hp : g.phase = .idle := Phase.refusal?_beginFeature.mp h
      rw [advance, turn, featureTurn]
      by_cases hs : g.gate.isSupported f.name = true
      · rw [beginFeature_supported hp hs, if_pos hs]
        rfl
      · rw [beginFeature_unsupported hp (by simpa using hs), if_neg hs]
        rfl
  | element e =>
      rw [advance, turn, elementTurn]
      cases hp : g.phase with
      | ready => exact absurd hp (Phase.refusal?_element.mp h).1
      | spent => exact absurd hp (Phase.refusal?_element.mp h).2
      | active feature places =>
          rw [define_active hp, hp]
          rfl
      | idle =>
          rw [define_outside (by rw [hp]; rfl) (by simp [hp]), hp]
          rfl
      | skipped feature =>
          rw [define_outside (by rw [hp]; rfl) (by simp [hp]), hp]
          rfl
  | endFeature =>
      rcases Phase.refusal?_endFeature.mp h with ⟨feature, places, hp⟩ | ⟨feature, hp⟩
      · rw [advance, turn, leaveTurn, endFeature_active hp, hp]
        rfl
      · rw [advance, turn, leaveTurn, endFeature_skipped hp, hp]
        rfl
  | endFile =>
      have hp : g.phase = .idle := Phase.refusal?_endFile.mp h
      exact close_idle hp

/-! ## Calls -/

/-- The generator after an event that it accepts. -/
def after (g : Generator ε) : Event → Generator ε
  | .endFile => (g.perform (g.turn .endFile)).delivered
  | e => g.perform (g.turn e)

theorem options_after (g : Generator ε) (e : Event) : (g.after e).options = g.options := by
  cases e <;> rfl

/-- The generator after any event: a refused one leaves it as it was. -/
def next (g : Generator ε) (e : Event) : Generator ε :=
  match g.phase.refusal? e with
  | some _ => g
  | none => g.after e

/-- The answer to an event: a fault, or a report if the file has ended. -/
abbrev Reply := Except GenerationFault (Option GenerationReport)

section Running

variable {m : Type → Type} [Monad m] [LawfulMonad m] [Storage m]

/-- A refused event does nothing, whatever the storage. -/
theorem runOn_on_of_refused {fault : GenerationFault} (h : g.phase.refusal? e = some fault) :
    runOn ((visitor : Visitor (Generating ε m) _).on e) g = pure (.error fault, g) := by
  have hadvance := advance_of_refused h
  cases e with
  | endFile =>
      exact runOn_bind_of_error (runOn_bind_of_error (runOn_react_of_error hadvance))
  | _ => exact runOn_bind_of_error (runOn_react_of_error hadvance)

/-- Events one after the other, also after a refusal, and what they are answered. -/
def calls (events : List Event) : StateT (Generator ε) m (List Reply) :=
  events.mapM fun e => ExceptT.run ((visitor : Visitor (Generating ε m) _).on e)

end Running

omit [Emitter ε] in
/-- On a disk, a step that is answered hands its result to what comes after it. -/
theorem run_runOn_bind {α β : Type} {x : Generating ε OnDisk α} {f : α → Generating ε OnDisk β}
    {g g' : Generator ε} {a : α} {d d' : Disk}
    (h : (runOn x g : OnDisk _).run d = ((.ok a, g'), d')) :
    (runOn (x >>= f) g : OnDisk _).run d = (runOn (f a) g' : OnDisk _).run d' := by
  rw [runOn, ExceptT.run_bind, StateT.run_bind]
  exact OnDisk.run_bind h

theorem on_run_of_refused {fault : GenerationFault} (h : g.phase.refusal? e = some fault)
    (d : Disk) :
    (runOn ((visitor : Visitor (Generating ε OnDisk) _).on e) g : OnDisk _).run d =
      ((.error fault, g), d) := by
  rw [runOn_on_of_refused h]
  rfl

/-- The end of the file, where it is accepted, comes down to a delivery. -/
theorem runOn_endFile {g' : Generator ε} {d d' : Disk} {report : GenerationReport}
    (h : g.phase.refusal? .endFile = none)
    (hdeliver : (deliver (g.perform (g.turn .endFile)) : OnDisk _).run d = ((report, g'), d')) :
    (runOn (visitor : Visitor (Generating ε OnDisk) _).endFile g : OnDisk _).run d =
      ((.ok report, g'), d') := by
  show (runOn (conclude : Generating ε OnDisk _) g : OnDisk _).run d = _
  rw [runOn_conclude (advance_of_accepted h), OnDisk.run_bind hdeliver]
  rfl

/-- An accepted event is answered and leaves its turn behind. -/
theorem on_run_of_accepted (h : g.phase.refusal? e = none) (d : Disk) :
    ∃ reply d', (runOn ((visitor : Visitor (Generating ε OnDisk) _).on e) g : OnDisk _).run d =
      ((.ok reply, g.after e), d') := by
  have hadvance := advance_of_accepted h
  cases e with
  | endFile =>
      obtain ⟨report, d', hdeliver⟩ := exists_deliver (g.perform (g.turn .endFile)) d
      refine ⟨some report, d', ?_⟩
      rw [Visitor.on]
      exact run_runOn_bind (runOn_endFile h hdeliver)
  | _ =>
      exact ⟨none, d,
        congrArg (fun x : OnDisk _ => x.run d) (runOn_bind_of_ok (runOn_react hadvance))⟩

theorem next_of_refused {fault : GenerationFault} (h : g.phase.refusal? e = some fault) :
    g.next e = g := by
  rw [next, h]

theorem next_of_accepted (h : g.phase.refusal? e = none) : g.next e = g.after e := by
  rw [next, h]

/-- What accepted events keep, all events keep. -/
theorem foldl_next_induction {P : Generator ε → Prop}
    (hafter : ∀ {g : Generator ε} {e : Event}, g.phase.refusal? e = none → P g → P (g.after e))
    (h : P g) (events : List Event) : P (events.foldl next g) := by
  induction events generalizing g with
  | nil => exact h
  | cons e events ih =>
      cases hr : g.phase.refusal? e with
      | some fault =>
          rw [List.foldl_cons, next_of_refused hr]
          exact ih h
      | none =>
          rw [List.foldl_cons, next_of_accepted hr]
          exact ih (hafter hr h)

theorem options_foldl (g : Generator ε) (events : List Event) :
    (events.foldl next g).options = g.options :=
  foldl_next_induction (P := fun g' => g'.options = g.options)
    (fun {g' e} _ h => (options_after g' e).trans h) rfl events

theorem calls_run_nil (g : Generator ε) (d : Disk) :
    ((calls []).run g : OnDisk _).run d = (([], g), d) := rfl

/-- The events after a first one find the generator and the disk as that one leaves them. -/
theorem calls_run_cons {events : List Event} {g' g'' : Generator ε} {d d' d'' : Disk}
    {reply : Reply} {replies : List Reply}
    (hfirst : (runOn ((visitor : Visitor (Generating ε OnDisk) _).on e) g : OnDisk _).run d =
      ((reply, g'), d'))
    (hrest : ((calls events).run g' : OnDisk _).run d' = ((replies, g''), d'')) :
    ((calls (e :: events)).run g : OnDisk _).run d = ((reply :: replies, g''), d'') := by
  rw [calls, List.mapM_cons, StateT.run_bind]
  refine (OnDisk.run_bind hfirst).trans ?_
  rw [StateT.run_bind]
  exact OnDisk.run_bind hrest

/-- Any sequence of events gets to its end, and what it leaves is a matter of the events alone. -/
theorem calls_run (events : List Event) (g : Generator ε) (d : Disk) :
    ∃ replies d', ((calls events).run g : OnDisk _).run d =
      ((replies, events.foldl next g), d') := by
  induction events generalizing g d with
  | nil => exact ⟨[], d, calls_run_nil g d⟩
  | cons e events ih =>
      cases h : g.phase.refusal? e with
      | some fault =>
          obtain ⟨replies, d', hrest⟩ := ih g d
          rw [List.foldl_cons, next_of_refused h]
          exact ⟨_, d', calls_run_cons (on_run_of_refused h d) hrest⟩
      | none =>
          obtain ⟨reply, d₁, hfirst⟩ := on_run_of_accepted h d
          obtain ⟨replies, d', hrest⟩ := ih (g.after e) d₁
          rw [List.foldl_cons, next_of_accepted h]
          exact ⟨_, d', calls_run_cons hfirst hrest⟩

/-! ## Refusals -/

/-- The events that were not answered with a fault. -/
def accepted (events : List Event) (replies : List Reply) : List Event :=
  ((events.zip replies).filter (·.2.isOk)).map (·.1)

/-- Leaving out the events that are refused changes neither what the others are answered nor what
is left behind. -/
theorem calls_accepted_run (events : List Event) (g : Generator ε) (d : Disk) :
    ∃ replies g' d', ((calls events).run g : OnDisk _).run d = ((replies, g'), d') ∧
      ((calls (accepted events replies)).run g : OnDisk _).run d =
        ((replies.filter (·.isOk), g'), d') := by
  induction events generalizing g d with
  | nil => exact ⟨[], g, d, calls_run_nil g d, calls_run_nil g d⟩
  | cons e events ih =>
      cases h : g.phase.refusal? e with
      | some fault =>
          obtain ⟨replies, g', d', hrest, haccepted⟩ := ih g d
          exact ⟨.error fault :: replies, g', d',
            calls_run_cons (on_run_of_refused h d) hrest, haccepted⟩
      | none =>
          obtain ⟨reply, d₁, hfirst⟩ := on_run_of_accepted h d
          obtain ⟨replies, g', d', hrest, haccepted⟩ := ih (g.after e) d₁
          exact ⟨.ok reply :: replies, g', d', calls_run_cons hfirst hrest,
            calls_run_cons hfirst haccepted⟩

/-- Wherever a generator stands, it refuses exactly what the protocol names and with that fault, and
a refused event does nothing: no sequence of events leaves anything else behind, on the generator
or on the disk, than its accepted events do. -/
theorem refused_events_do_nothing (g : Generator ε) (d : Disk) :
    (∀ e, match g.phase.refusal? e with
      | some fault =>
        (runOn ((visitor : Visitor (Generating ε OnDisk) _).on e) g : OnDisk _).run d =
          ((.error fault, g), d)
      | none => ∃ reply g' d',
        (runOn ((visitor : Visitor (Generating ε OnDisk) _).on e) g : OnDisk _).run d =
          ((.ok reply, g'), d')) ∧
    ∀ events, ∃ replies g' d',
      ((calls events).run g : OnDisk _).run d = ((replies, g'), d') ∧
      ((calls (accepted events replies)).run g : OnDisk _).run d =
        ((replies.filter (·.isOk), g'), d') := by
  refine ⟨?_, fun events => calls_accepted_run events g d⟩
  intro e
  cases h : g.phase.refusal? e with
  | some fault => exact on_run_of_refused h d
  | none =>
      obtain ⟨reply, d', hrun⟩ := on_run_of_accepted h d
      exact ⟨reply, g.after e, d', hrun⟩

end Generator

end VulkanWire
