import VulkanWire.Gate
import VulkanWire.Generator.Fault
import VulkanWire.Options
import VulkanWire.Output.Module
import VulkanWire.Registry

/-!
# Generators

A generator owns output modules, emitters bound to them, a registry and a
feature gate. It is put together once from declarations, which are checked:
module names are distinct, every emitter is bound to a declared module, and so
is the only module to keep when the others are suppressed.

## Main definitions

* `Phase` — where a generator stands in a traversal.
* `Generator.assemble` — puts a generator together.
* `Generator.broadcast` — tells emitters of a step and gathers their text.
-/

namespace VulkanWire

/-- Where a generator stands in a traversal. -/
inductive Phase where
  | ready
  /-- Between features. -/
  | idle
  /-- Inside a supported feature, with the places of the emitters that process it. -/
  | active (feature : String) (admitted : List Nat)
  /-- Inside a feature that generates nothing. -/
  | skipped (feature : String)
  | spent
deriving DecidableEq, Repr

/-- The declaration of an emitter: the module that its text goes to. -/
structure Binding (ε : Type) where
  emitter : ε
  /-- The name of the module. -/
  module : String
deriving DecidableEq, Repr

/-- An emitter with the place of its module. -/
structure BoundEmitter (ε : Type) where
  emitter : ε
  /-- The place of the module among all modules. -/
  place : Nat
deriving DecidableEq, Repr

/-- A generator with emitters of a given type. -/
structure Generator (ε : Type) where
  options : GeneratorOptions
  gate : FeatureGate
  /-- The modules in declaration order. -/
  modules : List OutputModule
  /-- The emitters in binding order. -/
  bound : List (BoundEmitter ε)
  registry : Registry := {}
  phase : Phase := .ready
deriving DecidableEq, Repr

namespace Generator

variable {ε : Type}

/-! ## Assembly -/

/-- The module of a declaration, in its own directory or in the one of its role. -/
def declare (o : GeneratorOptions) (s : ModuleSpec) : OutputModule :=
  .ofSpec s (s.directory.getD (o.roleDir s.role)) o.templates

/-- Finds the module of every binding. -/
def bindAll [Emitter ε] (names : List String) :
    List (Binding ε) → Except SetupFault (List (BoundEmitter ε))
  | [] => .ok []
  | b :: rest =>
    if b.module ∈ names then do
      let bound ← bindAll names rest
      .ok (⟨b.emitter, names.idxOf b.module⟩ :: bound)
    else .error (.unknownModule (Emitter.label b.emitter) b.module names)

/-- Suppresses all modules but the one to keep, if there is one. -/
def suppress (keep : Option String) (ms : List OutputModule) : List OutputModule :=
  match keep with
  | none => ms
  | some name => ms.map fun m => { m with suppressed := m.name ≠ name }

def assemble [Emitter ε] (o : GeneratorOptions) (gate : FeatureGate) (specs : List ModuleSpec)
    (bindings : List (Binding ε)) : Except SetupFault (Generator ε) := do
  let names := specs.map (·.name)
  if let some name := firstRepeated? [] names then .error (.duplicateModule name)
  let bound ← bindAll names bindings
  if let some keep := o.suppressExcept then
    unless keep ∈ names do .error (.unknownSuppressedModule keep names)
  .ok {
    options := o
    gate := gate
    modules := suppress o.suppressExcept (specs.map (declare o))
    bound := bound }

def module? (g : Generator ε) (name : String) : Option OutputModule :=
  g.modules.find? fun m => m.name = name

/-! ## Telling emitters of a step -/

/-- Tells the selected emitters, from a place on, of a step. -/
def broadcastFrom [Emitter ε] (r : Registry) (c : Callback) (selected : Nat → Bool) (place : Nat) :
    List (BoundEmitter ε) → List OutputModule → List (BoundEmitter ε) × List OutputModule
  | [], ms => ([], ms)
  | b :: rest, ms =>
    if selected place then
      let (text, emitter) := Emitter.respond r c b.emitter
      let (rest, ms) := broadcastFrom r c selected (place + 1) rest (ms.modify b.place (·.take text))
      ({ b with emitter } :: rest, ms)
    else
      let (rest, ms) := broadcastFrom r c selected (place + 1) rest ms
      (b :: rest, ms)

/-- Tells the selected emitters of a step and gathers their text. -/
def broadcast [Emitter ε] (g : Generator ε) (selected : Nat → Bool) (c : Callback) : Generator ε :=
  let (bound, modules) := broadcastFrom g.registry c selected 0 g.bound g.modules
  { g with bound, modules }

def tellAll [Emitter ε] (g : Generator ε) (c : Callback) : Generator ε :=
  g.broadcast (fun _ => true) c

/-- Tells the emitters at given places of a step. -/
def tell [Emitter ε] (g : Generator ε) (places : List Nat) (c : Callback) : Generator ε :=
  g.broadcast (fun i => places.contains i) c

def mapModules (g : Generator ε) (f : OutputModule → OutputModule) : Generator ε :=
  { g with modules := g.modules.map f }

/-- The places of the emitters that a decision admits. -/
def admitted [Emitter ε] (g : Generator ε) (d : FeatureDecision) : List Nat :=
  (List.range g.bound.length).filter fun i =>
    (g.bound[i]?).any fun b => d.admits (Emitter.kind b.emitter)

end Generator

end VulkanWire
