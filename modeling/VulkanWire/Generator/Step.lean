import VulkanWire.Generator.Basic
import VulkanWire.Schema.Traversal

/-!
# Events of a traversal

How a generator reacts to the events of a traversal. An event that makes no
sense where the generator stands is refused, and a refused event leaves the
generator as it was. Inside a supported feature every definition is recorded
and then told to the admitted emitters; elsewhere only the types on the gate's
exception list are recorded.

## Main definitions

* `Generator.beginFile`, `Generator.beginFeature`, `Generator.define`,
  `Generator.endFeature`, `Generator.close` — one reaction for each event.
-/

namespace VulkanWire

namespace Category

/-- How faults name the event that introduces a definition. -/
def eventName : Category → String
  | type => "gen-type"
  | struct => "gen-struct"
  | group => "gen-group"
  | enum => "gen-enum"
  | command => "gen-cmd"

end Category

namespace Phase

/-- Refuses events before the file begins and after it has ended. -/
def requireOpen (event : String) : Phase → Except GenerationFault Unit
  | ready => .error (.lifecycle (.notStarted event))
  | spent => .error (.lifecycle (.spent event))
  | _ => .ok ()

/-- The feature the generator is in, supported or not. -/
def feature? : Phase → Option String
  | active feature _ => some feature
  | skipped feature => some feature
  | _ => none

end Phase

namespace Generator

variable {ε : Type} [Emitter ε]

def beginFile (g : Generator ε) : Except GenerationFault (Generator ε) :=
  match g.phase with
  | .ready => .ok ({ g with phase := .idle }.tellAll .start)
  | .spent => .error (.lifecycle (.spent "begin-file"))
  | _ => .error (.lifecycle .alreadyStarted)

/-- The emitters at given places are told what commands a feature requires. -/
def requireCommands (g : Generator ε) (places : List Nat) (commands : List String) : Generator ε :=
  commands.foldl (fun g c => g.tell places (.requireCommand c)) g

/-- A supported feature begins for the emitters at given places. -/
def enter (g : Generator ε) (f : Feature) (places : List Nat) : Generator ε :=
  let g := { g with registry := g.registry.beginFeature f.name f.kind }
  let g := g.mapModules (·.openGuard f.name)
  let g := g.tell places (.enterFeature f.name f.kind)
  { g.requireCommands places f.require with phase := .active f.name places }

def beginFeature (f : Feature) (g : Generator ε) : Except GenerationFault (Generator ε) := do
  g.phase.requireOpen "begin-feature"
  match g.phase.feature? with
  | some active => .error (.guard (.nestedFeature active f.name))
  | none =>
    let decision := g.gate.evaluate f.name
    if decision.supported then .ok (g.enter f (g.admitted decision))
    else .ok { g with phase := .skipped f.name }

/-- Whether a definition is kept although its feature generates nothing. -/
def keeps (g : Generator ε) : Element → Bool
  | .type d => g.gate.isException d.name
  | _ => false

def define (e : Element) (g : Generator ε) : Except GenerationFault (Generator ε) := do
  g.phase.requireOpen e.category.eventName
  match g.phase with
  | .active _ places =>
    .ok ({ g with registry := g.registry.record e }.tell places (.element e))
  | phase =>
    if g.keeps e then
      .ok { g with registry := g.registry.recordUnder phase.feature? e }
    else .ok g

def endFeature (g : Generator ε) : Except GenerationFault (Generator ε) := do
  g.phase.requireOpen "end-feature"
  match g.phase with
  | .active _ places =>
    let g := g.tell places .leaveFeature
    let g := { g with registry := g.registry.endFeature, phase := .idle }
    .ok (g.mapModules (·.closeGuard))
  | .skipped _ => .ok { g with phase := .idle }
  | _ => .error (.guard .unmatchedEnd)

/-- The file ends, before anything is delivered. -/
def close (g : Generator ε) : Except GenerationFault (Generator ε) := do
  g.phase.requireOpen "end-file"
  match g.phase.feature? with
  | some active => .error (.guard (.unclosedFeature active))
  | none =>
    let g := { g with registry := g.registry.finish }.tellAll .finish
    .ok { g with phase := .spent }

end Generator

end VulkanWire
