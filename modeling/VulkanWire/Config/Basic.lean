import VulkanWire.Gfxstream.Modules
import VulkanWire.Options

/-!
# Configurations

The settings of the command line tool: where artifacts go, what libraries the
generated build refers to, and what is generated. A configuration is turned
into the options of a generation and the settings of the module table.

## Main definitions

* `Config` — all settings, each with its default.
* `Config.fault?` — the first setting that is no use.
* `Config.generatorOptions` — the options of a generation.
-/

namespace VulkanWire

/-- Where artifacts go. -/
structure OutputConfig where
  /-- The directory of host and common modules. -/
  dir : Path := "./cereal"
  guestEncoderDir : Option Path := none
  hostDecoderDir : Option Path := none
  /-- Whether no file is touched. -/
  dryRun : Bool := false
deriving DecidableEq, Repr, Inhabited

/-- What libraries the generated build refers to. -/
structure LibrariesConfig where
  /-- The include directory of the host's base library. -/
  base : String := "aemu/base"
  /-- The include directory of the guest's base library. -/
  guestBase : String := "aemu/base"
  /-- The name under which the host library links its base library. -/
  baseLink : String := "android-emu-base"
  /-- The target that provides the API headers. -/
  headerTarget : String := ""
  /-- The name under which the host library links the utility library. -/
  utilsLink : String := ""
  /-- The include directory of the utility library. -/
  utils : String := "utils"
  /-- The library of host modules. -/
  hostLibrary : String := "OpenglRender_vulkan_cereal"
deriving DecidableEq, Repr, Inhabited

/-- What is generated. -/
structure GenerationConfig where
  /-- Features to support beside the standard ones. -/
  extraFeatures : List String := []
  /-- The only module to deliver. -/
  suppress : Option String := none
  /-- The command that banners name, if not the one that was run. -/
  commandLine : Option String := none
deriving DecidableEq, Repr, Inhabited

/-- The settings of the tool. -/
structure Config where
  output : OutputConfig := {}
  libraries : LibrariesConfig := {}
  generation : GenerationConfig := {}
deriving DecidableEq, Repr, Inhabited

/-- A setting whose value is no use. -/
structure SettingFault where
  key : String
  problem : String
deriving DecidableEq, Repr

namespace Config

/-- The first setting that is no use, if there is one. -/
def fault? (c : Config) : Option SettingFault :=
  if c.output.dir.text = "" then some ⟨"output.dir", "must not be empty"⟩
  else if c.libraries.hostLibrary = "" then some ⟨"libraries.host_library", "must not be empty"⟩
  else if "" ∈ c.generation.extraFeatures then
    some ⟨"generation.extra_features", "invalid feature name \"\""⟩
  else none

/-- The settings of build fragments, with the command that was run. -/
def fragmentSettings (c : Config) (commandLine : String) : FragmentSettings where
  commandLine := commandLine
  hostLibrary := c.libraries.hostLibrary
  baseLibrary := c.libraries.baseLink
  headerTarget := c.libraries.headerTarget
  utilsLibrary := c.libraries.utilsLink

def layoutSettings (c : Config) : LayoutSettings where
  guestBase := c.libraries.guestBase
  base := c.libraries.base
  utils := c.libraries.utils

/-- The command that banners name, given the one that was run. -/
def bannerCommand (c : Config) (commandLine : String) : String :=
  c.generation.commandLine.getD commandLine

/-- The options of a generation, with the command that was run. -/
def generatorOptions (c : Config) (commandLine : String) : GeneratorOptions :=
  let named := c.bannerCommand commandLine
  { GeneratorOptions.withSuppressExcept { outputDir := c.output.dir }
      (c.generation.suppress.getD "") with
    guestEncoderDir := c.output.guestEncoderDir
    hostDecoderDir := c.output.hostDecoderDir
    dryRun := c.output.dryRun
    templates := .ofCommand named
    fragments := c.fragmentSettings named }

/-- Whether two configurations say the same, up to the spelling of paths. -/
def agrees (a b : Config) : Bool :=
  a.output.dir.components = b.output.dir.components &&
    a.output.guestEncoderDir.map Path.components = b.output.guestEncoderDir.map Path.components &&
    a.output.hostDecoderDir.map Path.components = b.output.hostDecoderDir.map Path.components &&
    a.output.dryRun = b.output.dryRun && a.libraries = b.libraries && a.generation = b.generation

end Config

end VulkanWire
