import VulkanWire.Build.Fragment
import VulkanWire.Output.Artifact
import VulkanWire.Output.Preamble

/-!
# Output modules

An output module gathers text for its header and its implementation file and
finally delivers both. It takes text only while it is neither suppressed nor
finalized, and it is finalized once: a second attempt is answered without any
effect. A module that is suppressed when it is finalized delivers nothing.

## Main definitions

* `OutputModule.take` — gathers text.
* `OutputModule.openGuard`, `OutputModule.closeGuard` — feature guards.
* `OutputModule.artifacts` — the files as they would be delivered now.
* `OutputModule.finalize` — delivers them.
-/

namespace VulkanWire

/-- How a module's delivery ended. -/
inductive ModuleOutcome where
  /-- All its artifacts were delivered. -/
  | delivered (module : String) (results : List Delivery)
  | suppressed (module : String)
  /-- An artifact was not delivered; the paths are of those before it. -/
  | failed (module : String) (fault : DeliveryFault) (landed : List Path)
  | alreadyFinalized (module : String)
deriving DecidableEq, Repr

namespace ModuleOutcome

def module : ModuleOutcome → String
  | delivered module _ => module
  | suppressed module => module
  | failed module _ _ => module
  | alreadyFinalized module => module

/-- Whether an artifact was not delivered. -/
def isFailure : ModuleOutcome → Bool
  | failed .. => true
  | _ => false

end ModuleOutcome

/-- A generated unit. -/
structure OutputModule where
  spec : ModuleSpec
  directory : Path
  preambles : Preambles
  /-- The text gathered for the header. -/
  header : String := ""
  /-- The text gathered for the implementation. -/
  implementation : String := ""
  suppressed : Bool := false
  finalized : Bool := false
deriving DecidableEq, Repr

namespace OutputModule

/-- The module of a declaration, with no text yet. -/
def ofSpec (s : ModuleSpec) (directory : Path) (t : PreambleTemplates) : OutputModule :=
  { spec := s, directory, preambles := .ofSpec s t }

/-- The name that bindings and the suppression switch use. -/
def name (m : OutputModule) : String := m.spec.name

/-! ## Gathering text -/

/-- Whether text given now is kept. -/
def acceptsText (m : OutputModule) : Bool := !m.suppressed && !m.finalized

/-- Gathers text for both files. -/
def take (m : OutputModule) (e : Emission) : OutputModule :=
  if m.acceptsText then
    { m with
      header := m.header ++ e.header
      implementation := m.implementation ++ e.implementation }
  else m

/-- Whether the text of a feature stands inside a guard. -/
def usesGuards (m : OutputModule) : Bool := !m.spec.suppressFeatureGuards

/-- The text that opens the guard of a feature. -/
def guardOpening (feature : String) : String := s!"#ifdef {feature}\n"

def guardClosing : String := "#endif\n"

/-- Opens the guard of a feature in both files. -/
def openGuard (m : OutputModule) (feature : String) : OutputModule :=
  if m.usesGuards then m.take ⟨guardOpening feature, guardOpening feature⟩ else m

/-- Closes the guard in both files. -/
def closeGuard (m : OutputModule) : OutputModule :=
  if m.usesGuards then m.take ⟨guardClosing, guardClosing⟩ else m

/-! ## Files -/

def headerPath (m : OutputModule) : Path := m.directory.join ⟨m.spec.basename ++ ".h"⟩

def implPath (m : OutputModule) : Path := m.directory.join ⟨m.spec.basename ++ ".cpp"⟩

def headerText (m : OutputModule) : String :=
  m.preambles.headerPreamble ++ m.header ++ m.preambles.headerPostamble

def implText (m : OutputModule) : String :=
  m.preambles.implPreamble ++ m.implementation ++ m.preambles.implPostamble

/-- The files as they would be delivered now. -/
def artifacts (m : OutputModule) : List Artifact :=
  (if m.spec.implOnly then [] else [⟨.header, m.headerPath, m.headerText⟩]) ++
    (if m.spec.headerOnly then [] else [⟨.implementation, m.implPath, m.implText⟩])

/-- The entry in the build fragments, unless the module is suppressed or has no implementation. -/
def buildSource? (m : OutputModule) : Option BuildEntry :=
  if m.suppressed || m.spec.headerOnly then none
  else some ⟨m.spec.role, m.name, m.implPath⟩

/-! ## Delivery -/

/-- Delivers the module's files, once. -/
def finalize {μ : Type → Type} [Monad μ] [Storage μ] (m : OutputModule) (dryRun : Bool) :
    μ (ModuleOutcome × OutputModule) := do
  if m.finalized then pure (.alreadyFinalized m.name, m)
  else
    let spent := { m with finalized := true }
    if m.suppressed then pure (.suppressed m.name, spent)
    else
      match ← deliverUnit dryRun m.artifacts with
      | .ok results => pure (.delivered m.name results, spent)
      | .error p => pure (.failed m.name p.fault (p.landed.map (·.path)), spent)

end OutputModule

end VulkanWire
