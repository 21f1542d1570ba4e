import VulkanWire.Proofs.Generator.Protocol

/-!
# The history of a module's text

What a module holds after any events is a list of strokes, written one after
the other: guards that were opened, answers of emitters, guards that were
closed. The history of a sequence of events lists them for one module, and its
guards come in pairs: no guard is opened while another is open, and the one
that is open in the end is the one of the feature the generator is in.

## Main definitions

* `Stroke` — one addition to a module's text.
* `Generator.history` — the strokes of a sequence of events.
* `Paired` — strokes whose guards come in pairs, but for the last one.

## Main results

* `Turn.modules_perform` — a turn adds its strokes to every module.
* `gathers_history` — what a sequence of events adds to a module.
* `paired_history` — the guards of a history come in pairs.
-/

namespace VulkanWire

/-! ## Strokes -/

/-- One addition to a module's text. -/
inductive Stroke where
  /-- The guard of a feature is opened. -/
  | opened (feature : String)
  /-- Emitters of the module answer. -/
  | said (text : Emission)
  | closed

namespace Stroke

/-- The text of a stroke, where guards are silent in modules without them. -/
def text (guarded : Bool) : Stroke → Emission
  | opened feature => OutputModule.guardOpened guarded feature
  | said text => text
  | closed => OutputModule.guardClosed guarded

/-- The text of strokes, one after the other. -/
def texts (guarded : Bool) (strokes : List Stroke) : Emission :=
  .concat (strokes.map (·.text guarded))

def isOpened : Stroke → Bool
  | opened _ => true
  | _ => false

def isClosed : Stroke → Bool
  | closed => true
  | _ => false

theorem texts_append (guarded : Bool) (hs hs' : List Stroke) :
    texts guarded (hs ++ hs') = texts guarded hs ++ texts guarded hs' := by
  rw [texts, List.map_append, Emission.concat_append]
  rfl

end Stroke

/-! ## Guards in pairs -/

/-- Strokes whose guards come in pairs, with the feature whose guard is still open. -/
inductive Paired : List Stroke → Option String → Prop where
  | nil : Paired [] none
  | opened {hs : List Stroke} {feature : String} (h : Paired hs none) :
      Paired (hs ++ [.opened feature]) (some feature)
  | said {hs : List Stroke} {guard? : Option String} {text : Emission} (h : Paired hs guard?) :
      Paired (hs ++ [.said text]) guard?
  | closed {hs : List Stroke} {feature : String} (h : Paired hs (some feature)) :
      Paired (hs ++ [.closed]) none

namespace Paired

variable {hs hs' : List Stroke} {guard? : Option String}

theorem opened_said (h : Paired hs none) (feature : String) (text : Emission) :
    Paired (hs ++ [.opened feature, .said text]) (some feature) := by
  rw [List.append_cons]
  exact .said (.opened h)

theorem said_closed {feature : String} (h : Paired hs (some feature)) (text : Emission) :
    Paired (hs ++ [.said text, .closed]) none := by
  rw [List.append_cons]
  exact .closed (.said h)

/-- Guards have been opened as often as closed, and once more while one is open. -/
theorem count (h : Paired hs guard?) :
    hs.countP Stroke.isOpened = hs.countP Stroke.isClosed + if guard?.isSome then 1 else 0 := by
  induction h with
  | nil => rfl
  | opened _ ih => simpa [List.countP_append, Stroke.isOpened, Stroke.isClosed] using ih
  | said _ ih => simpa [List.countP_append, Stroke.isOpened, Stroke.isClosed] using ih
  | closed _ ih => simpa [List.countP_append, Stroke.isOpened, Stroke.isClosed] using ih

/-- So it was at any time before. -/
theorem of_prefix (h : Paired hs guard?) (hinit : hs' <+: hs) :
    ∃ guard?', Paired hs' guard?' := by
  induction h with
  | nil =>
      rw [List.prefix_nil.mp hinit]
      exact ⟨none, .nil⟩
  | opened h ih =>
      rcases List.prefix_concat_iff.mp hinit with rfl | hearlier
      · exact ⟨_, .opened h⟩
      · exact ih hearlier
  | said h ih =>
      rcases List.prefix_concat_iff.mp hinit with rfl | hearlier
      · exact ⟨_, .said h⟩
      · exact ih hearlier
  | closed h ih =>
      rcases List.prefix_concat_iff.mp hinit with rfl | hearlier
      · exact ⟨_, .closed h⟩
      · exact ih hearlier

/-- At no time has a guard been closed that was not open, or two been open at once. -/
theorem count_of_prefix (h : Paired hs guard?) (hinit : hs' <+: hs) :
    hs'.countP Stroke.isClosed ≤ hs'.countP Stroke.isOpened ∧
      hs'.countP Stroke.isOpened ≤ hs'.countP Stroke.isClosed + 1 := by
  obtain ⟨guard?', h'⟩ := h.of_prefix hinit
  have hcount := h'.count
  split at hcount <;> omega

end Paired

/-- The supported feature that a phase is in. -/
def Phase.current? : Phase → Option String
  | active feature _ => some feature
  | _ => none

namespace Generator

variable {ε : Type} [Emitter ε]

/-! ## The strokes of a turn -/

/-- What a turn adds to the module at a place. -/
def Turn.strokes (t : Turn) (place : Nat) (bs : List (BoundEmitter ε)) : List Stroke :=
  (t.opens?.map Stroke.opened).toList ++
    .said (Piece.texts (recital t.cues (chosenAt t.selected place 0 bs))) ::
      (if t.closes then [.closed] else [])

/-- A turn adds its strokes to every module. -/
theorem Turn.modules_perform (t : Turn) (st : Stage ε) :
    (t.perform st).modules = st.modules.mapIdx fun place m =>
      m.take (Stroke.texts m.usesGuards (t.strokes place st.bound)) := by
  obtain ⟨opens?, selected, cues, closes, registry, phase⟩ := t
  apply List.ext_getElem?
  intro place
  cases opens? <;> cases closes <;>
    simp [Turn.perform, Turn.strokes, Stroke.texts, Stroke.text, Stage.mapModules,
      Stage.modules_tellAll, OutputModule.openGuard_eq_take, OutputModule.closeGuard_eq_take,
      OutputModule.take_take, Function.comp_def, Emission.append_assoc]

variable {g : Generator ε} {e : Event}

/-- What an event adds to the module at a place. -/
def strokes (g : Generator ε) (place : Nat) (e : Event) : List Stroke :=
  match g.phase.refusal? e with
  | some _ => []
  | none => (g.turn e).strokes place g.bound

/-- What events add to the module at a place, one after the other. -/
def history (g : Generator ε) (place : Nat) : List Event → List Stroke
  | [] => []
  | e :: events => g.strokes place e ++ (g.next e).history place events

/-- An accepted event adds its strokes to every module, and the last one also finalizes it. -/
theorem modules_after (g : Generator ε) (e : Event) :
    (g.after e).modules = g.modules.mapIdx fun place m =>
      let gathered := m.take (Stroke.texts m.usesGuards ((g.turn e).strokes place g.bound))
      if e = .endFile then gathered.spent else gathered := by
  have hperform := (g.turn e).modules_perform g.stage
  cases e with
  | endFile =>
      show ((g.turn .endFile).perform g.stage).modules.map (·.spent) = _
      rw [hperform]
      apply List.ext_getElem?
      intro place
      simp [stage, Function.comp_def]
  | _ => exact hperform

/-! ## Modules through events -/

/-- A module with strokes added to its text; a suppressed one keeps the text it has. -/
structure Gathers (strokes : List Stroke) (m m' : OutputModule) : Prop where
  spec : m'.spec = m.spec
  suppressed : m'.suppressed = m.suppressed
  text : m'.text = if m.suppressed then m.text else m.text ++ Stroke.texts m.usesGuards strokes

theorem Gathers.refl (m : OutputModule) : Gathers [] m m where
  spec := rfl
  suppressed := rfl
  text := by simp [Stroke.texts]

theorem Gathers.trans {hs hs' : List Stroke} {m m' m'' : OutputModule} (h : Gathers hs m m')
    (h' : Gathers hs' m' m'') : Gathers (hs ++ hs') m m'' where
  spec := h'.spec.trans h.spec
  suppressed := h'.suppressed.trans h.suppressed
  text := by
    have hguards : m'.usesGuards = m.usesGuards := by
      rw [OutputModule.usesGuards, OutputModule.usesGuards, h.spec]
    rw [h'.text, h.suppressed, h.text, hguards, Stroke.texts_append]
    split
    · rfl
    · rw [Emission.append_assoc]

theorem Gathers.spent {hs : List Stroke} {m m' : OutputModule} (h : Gathers hs m m') :
    Gathers hs m m'.spent :=
  ⟨h.spec, h.suppressed, h.text⟩

theorem gathers_take {m : OutputModule} (hopen : m.finalized = false) (hs : List Stroke) :
    Gathers hs m (m.take (Stroke.texts m.usesGuards hs)) where
  spec := OutputModule.spec_take m _
  suppressed := OutputModule.suppressed_take m _
  text := by
    cases hsup : m.suppressed with
    | true =>
        rw [OutputModule.take_of_rejects (by simp [OutputModule.acceptsText, hsup])]
        rfl
    | false =>
        exact OutputModule.text_take_of_accepts (by simp [OutputModule.acceptsText, hsup, hopen]) _

/-- The modules are finalized when the file has ended, and not before. -/
def Settled (g : Generator ε) : Prop := ∀ m ∈ g.modules, m.finalized = decide (g.phase = .spent)

theorem phase_after (g : Generator ε) (e : Event) : (g.after e).phase = (g.turn e).phase := by
  cases e <;> rfl

/-- Only the end of the file leads to the last phase. -/
theorem phase_after_eq_spent_iff (h : g.phase.refusal? e = none) :
    (g.after e).phase = .spent ↔ e = .endFile := by
  rw [phase_after]
  cases e with
  | beginFile => simp [turn]
  | beginFeature f =>
      rw [turn, featureTurn]
      split <;> simp
  | element e =>
      have hopen := Phase.ne_spent_of_accepted h
      rw [turn, elementTurn]
      cases hp : g.phase with
      | spent => exact absurd hp hopen
      | _ => simp
  | endFeature =>
      rw [turn, leaveTurn]
      cases hp : g.phase <;> simp
  | endFile => simp [turn]

variable {place : Nat} {m' : OutputModule}

/-- An accepted event turns every module into one that has gathered its strokes. -/
theorem exists_of_getElem?_after (hsettled : g.Settled) (h : g.phase.refusal? e = none)
    (hm' : (g.after e).modules[place]? = some m') :
    ∃ m, g.modules[place]? = some m ∧ Gathers (g.strokes place e) m m' ∧
      m'.finalized = decide (e = .endFile) := by
  have hstrokes : g.strokes place e = (g.turn e).strokes place g.bound := by
    rw [strokes, h]
  rw [modules_after, List.getElem?_mapIdx] at hm'
  cases hm : g.modules[place]? with
  | none =>
      rw [hm] at hm'
      cases hm'
  | some m =>
      rw [hm] at hm'
      injection hm' with hm'
      have hopen : m.finalized = false := by
        rw [hsettled m (List.mem_of_getElem? hm), decide_eq_false_iff_not]
        exact Phase.ne_spent_of_accepted h
      have hgathers := gathers_take hopen (g.strokes place e)
      refine ⟨m, rfl, ?_⟩
      rw [← hstrokes] at hm'
      dsimp only at hm'
      split at hm'
      · rename_i hend
        rw [← hm']
        exact ⟨hgathers.spent, by simp [hend, OutputModule.spent]⟩
      · rename_i hinner
        rw [← hm']
        exact ⟨hgathers, by simp [hinner, hopen]⟩

theorem settled_next (h : g.Settled) (e : Event) : (g.next e).Settled := by
  cases hr : g.phase.refusal? e with
  | some fault =>
      rw [next_of_refused hr]
      exact h
  | none =>
      rw [next_of_accepted hr]
      intro m' hm'
      obtain ⟨place, hplace⟩ := List.mem_iff_getElem?.mp hm'
      obtain ⟨m, -, -, hfinalized⟩ := exists_of_getElem?_after h hr hplace
      rw [hfinalized, decide_eq_decide]
      exact (phase_after_eq_spent_iff hr).symm

theorem exists_of_getElem?_next (hsettled : g.Settled)
    (hm' : (g.next e).modules[place]? = some m') :
    ∃ m, g.modules[place]? = some m ∧ Gathers (g.strokes place e) m m' := by
  cases hr : g.phase.refusal? e with
  | some fault =>
      rw [next_of_refused hr] at hm'
      rw [strokes, hr]
      exact ⟨m', hm', Gathers.refl m'⟩
  | none =>
      rw [next_of_accepted hr] at hm'
      obtain ⟨m, hm, hgathers, -⟩ := exists_of_getElem?_after hsettled hr hm'
      exact ⟨m, hm, hgathers⟩

theorem settled_foldl (h : g.Settled) (events : List Event) : (events.foldl next g).Settled := by
  induction events generalizing g with
  | nil => exact h
  | cons e events ih => exact ih (settled_next h e)

/-- Events turn every module into one that has gathered its history. -/
theorem gathers_history (hsettled : g.Settled) (events : List Event)
    (hm' : (events.foldl next g).modules[place]? = some m') :
    ∃ m, g.modules[place]? = some m ∧ Gathers (g.history place events) m m' := by
  induction events generalizing g with
  | nil => exact ⟨m', hm', Gathers.refl m'⟩
  | cons e events ih =>
      obtain ⟨m₁, hm₁, hrest⟩ := ih (settled_next hsettled e) hm'
      obtain ⟨m, hm, hfirst⟩ := exists_of_getElem?_next hsettled hm₁
      exact ⟨m, hm, hfirst.trans hrest⟩

/-! ## The guards of a history -/

/-- An accepted event opens a guard between features and closes the one of its feature. -/
theorem paired_turn (hr : g.phase.refusal? e = none) {hs : List Stroke}
    (h : Paired hs g.phase.current?) (place : Nat) :
    Paired (hs ++ (g.turn e).strokes place g.bound) (g.turn e).phase.current? := by
  cases e with
  | beginFile =>
      rw [Phase.refusal?_beginFile.mp hr] at h
      exact .said h
  | beginFeature f =>
      rw [Phase.refusal?_beginFeature.mp hr] at h
      rw [turn, featureTurn]
      split
      · exact h.opened_said _ _
      · exact .said h
  | element e =>
      rw [turn, elementTurn]
      split
      · rename_i feature places hp
        rw [hp] at h
        exact .said h
      · exact .said h
  | endFeature =>
      rcases Phase.refusal?_endFeature.mp hr with ⟨feature, places, hp⟩ | ⟨feature, hp⟩
      · rw [hp] at h
        rw [turn, leaveTurn, hp]
        exact h.said_closed _
      · rw [hp] at h
        rw [turn, leaveTurn, hp]
        exact .said h
  | endFile =>
      rw [Phase.refusal?_endFile.mp hr] at h
      exact .said h

/-- The guards of a history come in pairs, but for the one of the feature it ends in. -/
theorem paired_history {hs : List Stroke} (h : Paired hs g.phase.current?) (place : Nat)
    (events : List Event) :
    Paired (hs ++ g.history place events) (events.foldl next g).phase.current? := by
  induction events generalizing g hs with
  | nil => simpa [history] using h
  | cons e events ih =>
      rw [history, ← List.append_assoc]
      apply ih
      cases hr : g.phase.refusal? e with
      | some fault =>
          rw [next_of_refused hr, strokes, hr, List.append_nil]
          exact h
      | none =>
          rw [next_of_accepted hr, phase_after, strokes, hr]
          exact paired_turn hr h place

end Generator

end VulkanWire
