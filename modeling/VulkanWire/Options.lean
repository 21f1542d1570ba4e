import VulkanWire.Build.Fragment
import VulkanWire.Output.Preamble

/-!
# Generation options

What a run is told beside the schema: where files go, which module to keep when
only one is wanted, whether files are touched at all, and the texts that
preambles and build fragments are made of.
-/

namespace VulkanWire

/-- The options of a run. -/
structure GeneratorOptions where
  /-- The directory that all others default to lie in. -/
  outputDir : Path
  /-- The directory of guest modules, if not the default one. -/
  guestEncoderDir : Option Path := none
  /-- The directory of host modules, if not the output directory. -/
  hostDecoderDir : Option Path := none
  /-- The only module to deliver, if not all. -/
  suppressExcept : Option String := none
  /-- Whether no file is touched. -/
  dryRun : Bool := false
  templates : PreambleTemplates := .default
  fragments : FragmentSettings := {}
deriving DecidableEq, Repr

namespace GeneratorOptions

/-- Delivers only one module; an empty name means all. -/
def withSuppressExcept (o : GeneratorOptions) (module : String) : GeneratorOptions :=
  { o with suppressExcept := if module = "" then none else some module }

/-- Names a command in preambles and build fragments alike. -/
def withCommandLine (o : GeneratorOptions) (commandLine : String) : GeneratorOptions :=
  { o with
    templates := { o.templates with commandLine }
    fragments := { o.fragments with commandLine } }

def isSuppressing (o : GeneratorOptions) : Bool := o.suppressExcept.isSome

def guestDir (o : GeneratorOptions) : Path := o.guestEncoderDir.getD (o.outputDir.join "guest")

def hostDir (o : GeneratorOptions) : Path := o.hostDecoderDir.getD o.outputDir

/-- The directory of the modules of a role. -/
def roleDir (o : GeneratorOptions) : ModuleRole → Path
  | .guestEncoder => o.guestDir
  | .host => o.hostDir
  | .common => o.outputDir.join "common"

/-- Where the build fragment of the guest modules belongs. -/
def guestFragmentPath (o : GeneratorOptions) : Path := o.guestDir.join "sources.mk"

/-- Where the build fragment of all other modules belongs. -/
def hostFragmentPath (o : GeneratorOptions) : Path := o.outputDir.join "CMakeLists.txt"

end GeneratorOptions

end VulkanWire
