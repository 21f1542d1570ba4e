import VulkanWire.Schema.Basic

/-!
# Traversing schemas

A traversal of a schema is a fixed sequence of events: the file begins; every
feature begins, delivers its definitions category by category and ends; the
file ends. `Schema.events` lists them. A `Visitor` reacts to them in a monad of
its own choice, and `Schema.walk` drives it, so a visitor that fails stops the
traversal as its monad lets failures stop.

## Main results

* `walk_events` — walking is the same as reacting to the listed events in
  order, for every visitor in a lawful monad.
-/

namespace VulkanWire

/-- A step of a traversal. -/
inductive Event where
  | beginFile
  | beginFeature (f : Feature)
  | element (e : Element)
  | endFeature
  | endFile
deriving DecidableEq, Repr

/-- Reactions to the steps of a traversal; the last one yields the outcome. -/
structure Visitor (m : Type → Type) (ω : Type) where
  beginFile : m Unit
  beginFeature : Feature → m Unit
  element : Element → m Unit
  endFeature : m Unit
  endFile : m ω

namespace Visitor

variable {m : Type → Type} {ω : Type}

/-- The reaction to an event other than the end of the file. -/
def onInner [Monad m] (v : Visitor m ω) : Event → m Unit
  | .beginFile => v.beginFile
  | .beginFeature f => v.beginFeature f
  | .element e => v.element e
  | .endFeature => v.endFeature
  | .endFile => pure ()

end Visitor

namespace Feature

def events (f : Feature) : List Event :=
  .beginFeature f :: (f.orderedElements.map .element ++ [.endFeature])

end Feature

namespace Schema

/-- The events of a traversal before the end of the file. -/
def innerEvents (s : Schema) : List Event := .beginFile :: s.features.flatMap (·.events)

def events (s : Schema) : List Event := s.innerEvents ++ [.endFile]

variable {m : Type → Type} {ω : Type}

def walkElements [Monad m] (v : Visitor m ω) : List Element → m Unit
  | [] => pure ()
  | e :: rest => do
    v.element e
    walkElements v rest

def walkFeatures [Monad m] (v : Visitor m ω) : List Feature → m Unit
  | [] => pure ()
  | f :: rest => do
    v.beginFeature f
    walkElements v f.orderedElements
    v.endFeature
    walkFeatures v rest

/-- Drives a visitor through a schema. -/
def walk [Monad m] (v : Visitor m ω) (s : Schema) : m ω := do
  v.beginFile
  walkFeatures v s.features
  v.endFile

/-! ## Walking is reacting to the listed events -/

/-- Reacts to events one after the other. -/
def react [Monad m] (v : Visitor m ω) : List Event → m Unit
  | [] => pure ()
  | e :: rest => do
    v.onInner e
    react v rest

variable [Monad m]

theorem walkElements_eq_react (v : Visitor m ω) (es : List Element) :
    walkElements v es = react v (es.map .element) := by
  induction es with
  | nil => rfl
  | cons e es ih => simp [walkElements, react, Visitor.onInner, ih]

variable [LawfulMonad m]

theorem react_append (v : Visitor m ω) (es fs : List Event) :
    react v (es ++ fs) = (do react v es; react v fs) := by
  induction es with
  | nil => simp [react]
  | cons e es ih => simp [react, ih]

theorem walkFeatures_eq_react (v : Visitor m ω) (fs : List Feature) :
    walkFeatures v fs = react v (fs.flatMap (·.events)) := by
  induction fs with
  | nil => rfl
  | cons f fs ih =>
    simp [walkFeatures, react, react_append, Visitor.onInner, Feature.events, ih,
      walkElements_eq_react]

/-- Walking a schema is reacting to its events in order and then to the end of the file. -/
theorem walk_events (v : Visitor m ω) (s : Schema) :
    s.walk v = (do react v s.innerEvents; v.endFile) := by
  simp [walk, innerEvents, react, Visitor.onInner, walkFeatures_eq_react]

end Schema

end VulkanWire
