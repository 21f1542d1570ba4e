import VulkanWire.Generator.Report
import VulkanWire.Generator.Step

/-!
# Whole generations

When the file ends, every module is finalized in declaration order, whether or
not those before it failed, and then the build fragments are delivered, unless
only one module is wanted. A whole generation validates its schema and then
walks it.

## Main definitions

* `Generator.deliver` — finalizes the modules and delivers the fragments.
* `Generator.visitor` — the generator as a visitor of schemas.
* `Generator.run` — a whole generation.
-/

namespace VulkanWire

namespace Generator

variable {ε : Type} {m : Type → Type} [Monad m] [Storage m]

def finalizeAll (dryRun : Bool) :
    List OutputModule → m (List ModuleOutcome × List OutputModule)
  | [] => pure ([], [])
  | u :: rest => do
    let (outcome, u) ← u.finalize dryRun
    let (outcomes, rest) ← finalizeAll dryRun rest
    pure (outcome :: outcomes, u :: rest)

/-- The build fragments with their paths and texts. -/
def fragmentArtifacts (o : GeneratorOptions) (f : BuildFragments) : List Artifact :=
  [⟨.buildFragment, o.guestFragmentPath, f.renderGuest o.guestDir o.fragments⟩,
    ⟨.buildFragment, o.hostFragmentPath, f.renderHost o.outputDir o.fragments⟩]

def deliverFragments (dryRun : Bool) : List Artifact → m (List FragmentOutcome)
  | [] => pure []
  | a :: rest => do
    let outcome ← match ← deliverFragment dryRun a with
      | .ok result => pure (FragmentOutcome.delivered result)
      | .error fault => pure (FragmentOutcome.failed fault)
    let outcomes ← deliverFragments dryRun rest
    pure (outcome :: outcomes)

/-- The build entries of the modules. -/
def buildFragments (g : Generator ε) : BuildFragments :=
  .ofEntries (g.modules.filterMap (·.buildSource?))

/-- Finalizes every module and delivers the build fragments. -/
def deliver (g : Generator ε) : m (GenerationReport × Generator ε) := do
  let (outcomes, modules) ← finalizeAll g.options.dryRun g.modules
  let fragments := g.buildFragments
  let fragmentOutcomes ←
    if g.options.isSuppressing then pure []
    else deliverFragments g.options.dryRun (fragmentArtifacts g.options fragments)
  pure (⟨outcomes, fragments, fragmentOutcomes, g.options.suppressExcept⟩, { g with modules })

variable [Emitter ε]

/-- The reactions of a generator, which stands as it was after a refusal. -/
abbrev Generating (ε : Type) (m : Type → Type) := ExceptT GenerationFault (StateT (Generator ε) m)

/-- Reacts to an event other than the end of the file. -/
def react (step : Generator ε → Except GenerationFault (Generator ε)) : Generating ε m Unit := do
  match step (← get) with
  | .ok g => set g
  | .error fault => throw fault

/-- Reacts to the end of the file. -/
def conclude : Generating ε m GenerationReport := do
  react close
  let (report, g) ← (deliver (← get) : m _)
  set g
  return report

/-- The generator as a visitor of schemas. -/
def visitor : Visitor (Generating ε m) GenerationReport where
  beginFile := react beginFile
  beginFeature f := react (beginFeature f)
  element e := react (define e)
  endFeature := react endFeature
  endFile := conclude

/-- A whole generation: validates the schema and then walks it. -/
def generate (s : Schema) : Generating ε m GenerationReport := do
  match s.validate with
  | .error fault => throw (.schema fault)
  | .ok () => s.walk visitor

def runOn {α : Type} (x : Generating ε m α) (g : Generator ε) :
    m (Except GenerationFault α × Generator ε) := (ExceptT.run x).run g

/-- A whole generation from a given generator. -/
def run (g : Generator ε) (s : Schema) : m (Except GenerationFault GenerationReport × Generator ε) :=
  runOn (generate s) g

end Generator

end VulkanWire
