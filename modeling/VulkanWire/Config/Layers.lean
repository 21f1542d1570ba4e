import VulkanWire.Config.Basic

/-!
# Layers of settings

Settings come in layers: what a configuration file says, then what environment
variables say, then what the command line says. A variable counts only if its
last value is not empty; an empty module name on the command line turns the
suppression of the others off.

## Main definitions

* `EnvOverrides.ofPairs` — what a list of variables says.
* `Config.withEnv`, `Config.withArgs` — a configuration under a further layer.
* `Config.layered?` — all layers together, checked.
-/

namespace VulkanWire

/-- What environment variables say. -/
structure EnvOverrides where
  guestEncoderDir : Option Path := none
  hostDecoderDir : Option Path := none
  base : Option String := none
  guestBase : Option String := none
  baseLink : Option String := none
  headerTarget : Option String := none
  utilsLink : Option String := none
  utils : Option String := none
  suppress : Option String := none
deriving DecidableEq, Repr, Inhabited

namespace EnvOverrides

/-- The last value of a variable, unless it is empty. -/
def value? (pairs : List (String × String)) (name : String) : Option String :=
  (pairs.reverse.lookup name).filter (· ≠ "")

/-- What a list of variables says. -/
def ofPairs (pairs : List (String × String)) : EnvOverrides where
  guestEncoderDir := (value? pairs "VK_CEREAL_GUEST_ENCODER_DIR").map Path.mk
  hostDecoderDir := (value? pairs "VK_CEREAL_HOST_DECODER_DIR").map Path.mk
  base := value? pairs "VK_CEREAL_BASELIB_PREFIX"
  guestBase := value? pairs "VK_CEREAL_GUEST_BASELIB_PREFIX"
  baseLink := value? pairs "VK_CEREAL_BASELIB_LINKNAME"
  headerTarget := value? pairs "VK_CEREAL_VK_HEADER_TARGET"
  utilsLink := value? pairs "VK_CEREAL_UTILS_LINKNAME"
  utils := value? pairs "VK_CEREAL_UTILS_PREFIX"
  suppress := value? pairs "ANDROID_EMU_VK_CEREAL_SUPPRESS"

/-- The variables that are looked at. -/
def names : List String := [
  "VK_CEREAL_GUEST_ENCODER_DIR", "VK_CEREAL_HOST_DECODER_DIR", "VK_CEREAL_BASELIB_PREFIX",
  "VK_CEREAL_GUEST_BASELIB_PREFIX", "VK_CEREAL_BASELIB_LINKNAME", "VK_CEREAL_VK_HEADER_TARGET",
  "VK_CEREAL_UTILS_LINKNAME", "VK_CEREAL_UTILS_PREFIX", "ANDROID_EMU_VK_CEREAL_SUPPRESS"]

end EnvOverrides

/-- What the command line says. -/
structure ArgOverrides where
  output : Option Path := none
  guestEncoderDir : Option Path := none
  hostDecoderDir : Option Path := none
  dryRun : Option Bool := none
  suppress : Option String := none
  extraFeatures : List String := []
deriving DecidableEq, Repr, Inhabited

namespace Config

/-- A configuration under what environment variables say. -/
def withEnv (c : Config) (e : EnvOverrides) : Config where
  output := { c.output with
    guestEncoderDir := e.guestEncoderDir.or c.output.guestEncoderDir
    hostDecoderDir := e.hostDecoderDir.or c.output.hostDecoderDir }
  libraries := { c.libraries with
    base := e.base.getD c.libraries.base
    guestBase := e.guestBase.getD c.libraries.guestBase
    baseLink := e.baseLink.getD c.libraries.baseLink
    headerTarget := e.headerTarget.getD c.libraries.headerTarget
    utilsLink := e.utilsLink.getD c.libraries.utilsLink
    utils := e.utils.getD c.libraries.utils }
  generation := { c.generation with suppress := e.suppress.or c.generation.suppress }

/-- A configuration under what the command line says. -/
def withArgs (c : Config) (a : ArgOverrides) : Config where
  output := {
    dir := a.output.getD c.output.dir
    guestEncoderDir := a.guestEncoderDir.or c.output.guestEncoderDir
    hostDecoderDir := a.hostDecoderDir.or c.output.hostDecoderDir
    dryRun := a.dryRun.getD c.output.dryRun }
  libraries := c.libraries
  generation := { c.generation with
    suppress := a.suppress.or c.generation.suppress
    extraFeatures := c.generation.extraFeatures ++ a.extraFeatures }

/-- A configuration in which an empty module name suppresses nothing. -/
def withoutEmptySuppression (c : Config) : Config :=
  if c.generation.suppress = some "" then
    { c with generation := { c.generation with suppress := none } }
  else c

/-- All layers together, unless a setting is no use. -/
def layered? (c : Config) (e : EnvOverrides) (a : ArgOverrides) : Except SettingFault Config :=
  let c := ((c.withEnv e).withArgs a).withoutEmptySuppression
  match c.fault? with
  | some fault => .error fault
  | none => .ok c

end Config

end VulkanWire
