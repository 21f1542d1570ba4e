import VulkanWire.Proofs.Output.Gathering
import VulkanWire.Generator.Basic
import VulkanWire.Schema.Traversal

/-!
# The script of a run

What a run does with a schema, written down before any emitter is looked at: a
list of passages, each a list of cues. A cue is a step with the registry as it
stands by then; a passage says who is told of its cues. The script depends on
the gate and the schema alone. Emitters enter only when it is performed: every
module performs it with the emitters bound to it, and the pieces of text they
answer with, one after the other, are the module's text.

## Main definitions

* `Registry.through` — the registry after a feature.
* `Schema.script` — the passages of a run.
* `Passage.pieces` — what the emitters of one module answer in a passage.
* `performance` — what they answer in all passages.

## Main results

* `Schema.script_congr` — the script depends on the gate's decisions only.
-/

namespace VulkanWire

/-! ## Cues -/

/-- A step that emitters are told of, with the registry as it stands by then. -/
structure Cue where
  registry : Registry
  callback : Callback

namespace Cue

variable {ε : Type} [Emitter ε]

/-- What an emitter answers. -/
def answer (c : Cue) (e : ε) : Emission := (Emitter.respond c.registry c.callback e).1

/-- The emitter after its answer. -/
def after (c : Cue) (e : ε) : ε := (Emitter.respond c.registry c.callback e).2

end Cue

/-! ## Passages -/

/-- Cues for the same emitters. -/
inductive Passage where
  /-- A cue for all emitters, outside every guard. -/
  | everyone (cue : Cue)
  /-- The cues of a feature, for the emitters that the decision admits, inside its guard. -/
  | feature (name : String) (decision : FeatureDecision) (cues : List Cue)

/-- A piece of a module's text with the cue that it answers; guards answer none. -/
structure Piece where
  cue? : Option Cue
  text : Emission

/-- The text of pieces, one after the other. -/
def Piece.texts (ps : List Piece) : Emission := .concat (ps.map (·.text))

section Performing

variable {ε : Type} [Emitter ε]

/-- The answers of emitters to cues: cue by cue, and to each cue emitter by emitter. -/
def recital : List Cue → List ε → List Piece
  | [], _ => []
  | c :: cues, es => es.map (fun e => ⟨some c, c.answer e⟩) ++ recital cues (es.map c.after)

namespace Passage

/-- Whether an emitter is told of the cues of a passage. -/
def admits (e : ε) : Passage → Bool
  | everyone _ => true
  | feature _ d _ => d.admits (Emitter.kind e)

/-- The cues of a passage. -/
def cues : Passage → List Cue
  | everyone c => [c]
  | feature _ _ cs => cs

/-- The start of the guard around a passage, silent in modules without guards. -/
def opening (guarded : Bool) : Passage → List Piece
  | everyone _ => []
  | feature name _ _ => [⟨none, OutputModule.guardOpened guarded name⟩]

/-- The end of the guard around a passage, silent in modules without guards. -/
def closing (guarded : Bool) : Passage → List Piece
  | everyone _ => []
  | feature .. => [⟨none, OutputModule.guardClosed guarded⟩]

/-- What the emitters of one module answer in a passage, inside its guard. -/
def pieces (guarded : Bool) (es : List ε) (p : Passage) : List Piece :=
  p.opening guarded ++ recital p.cues (es.filter (p.admits ·)) ++ p.closing guarded

/-- An emitter after a passage. -/
def advance (p : Passage) (e : ε) : ε :=
  if p.admits e then p.cues.foldl (fun e c => c.after e) e else e

end Passage

/-- What the emitters of one module answer in passages. -/
def performance (guarded : Bool) : List Passage → List ε → List Piece
  | [], _ => []
  | p :: ps, es => p.pieces guarded es ++ performance guarded ps (es.map p.advance)

end Performing

/-! ## The script of a schema -/

namespace Registry

/-- The registry after definitions have been recorded in turn. -/
def recordAll (r : Registry) (es : List Element) : Registry := es.foldl record r

/-- Records a definition of a feature that generates nothing, if it is on the exception list. -/
def recordException (gate : FeatureGate) (feature : String) (r : Registry) : Element → Registry
  | .type d => if gate.isException d.name then r.recordUnder (some feature) (.type d) else r
  | _ => r

/-- The registry after a feature. -/
def through (gate : FeatureGate) (r : Registry) (f : Feature) : Registry :=
  if gate.isSupported f.name then
    ((r.beginFeature f.name f.kind).recordAll f.orderedElements).endFeature
  else f.orderedElements.foldl (recordException gate f.name) r

end Registry

/-- The cues of definitions: each is recorded first and then told. -/
def elementCues (r : Registry) : List Element → List Cue
  | [] => []
  | e :: rest => ⟨r.record e, .element e⟩ :: elementCues (r.record e) rest

namespace Feature

/-- The cues of a feature that begins with a registry. -/
def cues (f : Feature) (r : Registry) : List Cue :=
  let entered := r.beginFeature f.name f.kind
  ⟨entered, .enterFeature f.name f.kind⟩ ::
    (f.require.map (fun c => ⟨entered, .requireCommand c⟩) ++
      (elementCues entered f.orderedElements ++
        [⟨entered.recordAll f.orderedElements, .leaveFeature⟩]))

end Feature

/-- The passages of features, one for each supported one. -/
def featurePassages (gate : FeatureGate) (r : Registry) : List Feature → List Passage
  | [] => []
  | f :: rest =>
    let others := featurePassages gate (r.through gate f) rest
    if gate.isSupported f.name then
      .feature f.name (gate.evaluate f.name) (f.cues r) :: others
    else others

namespace Schema

/-- The registry after all features, with the traversal marked as complete. -/
def finalRegistry (s : Schema) (gate : FeatureGate) : Registry :=
  (s.features.foldl (Registry.through gate) {}).finish

/-- The passages of a run. -/
def script (s : Schema) (gate : FeatureGate) : List Passage :=
  .everyone ⟨{}, .start⟩ ::
    (featurePassages gate {} s.features ++ [.everyone ⟨s.finalRegistry gate, .finish⟩])

end Schema

/-! ## Gates that decide alike -/

section Alike

variable {gate gate' : FeatureGate}

theorem FeatureGate.isSupported_congr {name : String}
    (h : gate.evaluate name = gate'.evaluate name) :
    gate.isSupported name = gate'.isSupported name := by
  rw [← gate.supported_evaluate, h, gate'.supported_evaluate]

theorem Registry.through_congr {f : Feature} (h : gate.evaluate f.name = gate'.evaluate f.name)
    (hexceptions : gate.exceptions = gate'.exceptions) (r : Registry) :
    r.through gate f = r.through gate' f := by
  have hexception : recordException gate f.name = recordException gate' f.name := by
    funext r e
    cases e with
    | type d =>
        have hname : gate.isException d.name = gate'.isException d.name := by
          rw [FeatureGate.isException, FeatureGate.isException, hexceptions]
        rw [recordException, recordException, hname]
    | struct d => rfl
    | group d => rfl
    | enum d => rfl
    | command d => rfl
  rw [through, through, FeatureGate.isSupported_congr h, hexception]

theorem featurePassages_congr {fs : List Feature}
    (h : ∀ f ∈ fs, gate.evaluate f.name = gate'.evaluate f.name)
    (hexceptions : gate.exceptions = gate'.exceptions) (r : Registry) :
    featurePassages gate r fs = featurePassages gate' r fs ∧
      fs.foldl (Registry.through gate) r = fs.foldl (Registry.through gate') r := by
  induction fs generalizing r with
  | nil => exact ⟨rfl, rfl⟩
  | cons f fs ih =>
      rw [List.forall_mem_cons] at h
      obtain ⟨hpassages, hfold⟩ := ih h.2 (r.through gate' f)
      rw [featurePassages, featurePassages, List.foldl_cons, List.foldl_cons,
        Registry.through_congr h.1 hexceptions, hpassages, hfold, FeatureGate.isSupported_congr h.1,
        h.1]
      exact ⟨rfl, rfl⟩

/-- The script is the same for gates that decide alike about the features of a schema and keep the
same exceptions. -/
theorem Schema.script_congr {s : Schema}
    (h : ∀ f ∈ s.features, gate.evaluate f.name = gate'.evaluate f.name)
    (hexceptions : gate.exceptions = gate'.exceptions) : s.script gate = s.script gate' := by
  obtain ⟨hpassages, hfold⟩ := featurePassages_congr h hexceptions {}
  rw [script, script, finalRegistry, finalRegistry, hpassages, hfold]

end Alike

/-! ## Performing passages one after the other -/

section Performing

variable {ε : Type} [Emitter ε]

@[simp] theorem Piece.texts_nil : Piece.texts [] = .silent := Emission.concat_nil

@[simp] theorem Piece.texts_append (ps qs : List Piece) :
    Piece.texts (ps ++ qs) = Piece.texts ps ++ Piece.texts qs := by
  rw [Piece.texts, List.map_append, Emission.concat_append]
  rfl

theorem performance_append (guarded : Bool) (ps qs : List Passage) (es : List ε) :
    performance guarded (ps ++ qs) es =
      performance guarded ps es ++
        performance guarded qs (es.map fun e => ps.foldl (fun e p => p.advance e) e) := by
  induction ps generalizing es with
  | nil => simp [performance]
  | cons p ps ih =>
      rw [List.cons_append, performance, performance, ih, List.append_assoc]
      simp only [List.map_map, Function.comp_def, List.foldl_cons]

/-- What emitters answer to a cue stands before what they answer to the cues after it. -/
theorem texts_recital_cons (c : Cue) (cues : List Cue) (es : List ε) :
    Piece.texts (recital (c :: cues) es) =
      .concat (es.map c.answer) ++ Piece.texts (recital cues (es.map c.after)) := by
  rw [recital, Piece.texts_append]
  simp only [Piece.texts, List.map_map, Function.comp_def]

end Performing

end VulkanWire
