import VulkanWire.Proofs.Registry.Contents

/-!
# Histories of a registry

A registry changes by features that begin and end and by definitions that are
recorded, under the current feature or, for a type, under any other. Changes may
come in any order. What they record can be read off them without a registry: the
definitions in their order, each with the feature it is recorded under. A
registry that starts empty answers by that list alone.

## Main definitions

* `Mutation` — a change of a registry.
* `Mutation.recordings` — what changes record, in order.
* `Registry.replay` — the registry after changes.

## Main results

* `Registry.gains_apply`, `Registry.gains_replay` — what a change adds, and what
  any changes add.
-/

namespace VulkanWire

/-- A change of a registry. -/
inductive Mutation where
  | beginFeature (name : String) (kind : FeatureKind)
  | endFeature
  | finish
  /-- Records a definition under the current feature. -/
  | record (e : Element)
  /-- Records a type under a feature that is told, or under none. -/
  | recordType (d : TypeDef) (feature : Option String)
deriving DecidableEq, Repr

namespace Mutation

/-- The feature that is current after a change. -/
def featureAfter (current : Option String) : Mutation → Option String
  | .beginFeature name _ => some name
  | .endFeature => none
  | _ => current

/-- What a change records, if it records anything. -/
def recording? (current : Option String) : Mutation → Option Record
  | .record e => some ⟨e, current⟩
  | .recordType d feature => some ⟨.type d, feature⟩
  | _ => none

/-- The feature that a change enters, with its kind. -/
def kind? : Mutation → Option (String × FeatureKind)
  | .beginFeature name kind => some (name, kind)
  | _ => none

/-- What changes record, in order, given the feature that is current before them. -/
def recordings (current : Option String) : List Mutation → List Record
  | [] => []
  | m :: ms => (m.recording? current).toList ++ recordings (m.featureAfter current) ms

end Mutation

namespace Registry

/-- The registry after a change. -/
def apply (r : Registry) : Mutation → Registry
  | .beginFeature name kind => r.beginFeature name kind
  | .endFeature => r.endFeature
  | .finish => r.finish
  | .record e => r.record e
  | .recordType d feature => r.recordUnder feature (.type d)

/-- The registry after changes, one after the other, to an empty one. -/
def replay (ms : List Mutation) : Registry := ms.foldl apply {}

theorem currentFeature?_apply (r : Registry) (m : Mutation) :
    (r.apply m).currentFeature? = m.featureAfter r.currentFeature? := by
  cases m with
  | record e => exact currentFeature?_record e
  | _ => rfl

/-- A change adds what it records, and the feature that it enters. -/
theorem gains_apply (r : Registry) (m : Mutation) :
    Gains (m.recording? r.currentFeature?).toList m.kind?.toList r (r.apply m) := by
  cases m with
  | beginFeature name kind => exact ⟨rfl, rfl, rfl, rfl⟩
  | endFeature => exact ⟨rfl, rfl, rfl, rfl⟩
  | finish => exact ⟨rfl, rfl, rfl, rfl⟩
  | record e => exact gains_record_current r e
  | recordType d feature => exact ⟨rfl, rfl, rfl, aliases_recordUnder r feature (.type d)⟩

theorem gains_foldl_apply (r : Registry) (ms : List Mutation) :
    Gains (Mutation.recordings r.currentFeature? ms) (ms.filterMap (·.kind?)) r
      (ms.foldl apply r) := by
  induction ms generalizing r with
  | nil => exact Gains.refl r
  | cons m ms ih =>
      have hrest := ih (r.apply m)
      rw [currentFeature?_apply] at hrest
      have hkinds : (m :: ms).filterMap (·.kind?) = m.kind?.toList ++ ms.filterMap (·.kind?) := by
        cases h : m.kind? <;> simp [h]
      rw [hkinds]
      exact (gains_apply r m).trans hrest

/-- Changes to an empty registry leave in it what they record. -/
theorem gains_replay (ms : List Mutation) :
    Gains (Mutation.recordings none ms) (ms.filterMap (·.kind?)) {} (replay ms) :=
  gains_foldl_apply {} ms

end Registry

end VulkanWire
