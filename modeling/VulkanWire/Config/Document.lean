import VulkanWire.Config.Basic
import VulkanWire.Toml.Reader

/-!
# Configuration files

A configuration file is a TOML document with one table for each group of
settings. A setting that is not given has its default and an unknown one is
skipped, but no number anywhere may be out of range. A group may also be
written as an array of its settings in declaration order.

## Main definitions

* `Config.parse?` — the configuration in a text.
* `Config.template` — the text of a new configuration file.
-/

namespace VulkanWire

namespace Toml

/-- The settings of a group, in declaration order. -/
def settings? (names : List String) : Toml → Option (List (Option Toml))
  | table _ es =>
    if entriesInRange (es.filter fun (k, _) => !names.contains k) then
      some (names.map fun n => es.lookup n)
    else none
  | array _ items => some ((List.range names.length).map fun i => items[i]?)
  | moment => some (names.map fun _ => none)
  | _ => none

/-- The settings of a group that may be left out. -/
def group? (names : List String) : Option Toml → Option (List (Option Toml))
  | some v => v.settings? names
  | none => some (names.map fun _ => none)

def toText? : Toml → Option String
  | text s => some s
  | _ => none

def toPath? (v : Toml) : Option Path := v.toText?.map Path.mk

def toBool? : Toml → Option Bool
  | bool b => some b
  | _ => none

def toTexts? : Toml → Option (List String)
  | array _ items => items.mapM toText?
  | _ => none

/-- The value of a setting that has a default. -/
def orElse? {α : Type} (default : α) (read : Toml → Option α) : Option Toml → Option α
  | some v => read v
  | none => some default

/-- The value of a setting that may be missing. -/
def given? {α : Type} (read : Toml → Option α) : Option Toml → Option (Option α)
  | some v => (read v).map some
  | none => some none

end Toml

open Toml

namespace OutputConfig

def decode? (v : Option Toml) : Option OutputConfig := do
  let [dir, guest, host, dryRun] ←
    group? ["dir", "guest_encoder_dir", "host_decoder_dir", "dry_run"] v | none
  let d : OutputConfig := {}
  return {
    dir := ← orElse? d.dir toPath? dir
    guestEncoderDir := ← given? toPath? guest
    hostDecoderDir := ← given? toPath? host
    dryRun := ← orElse? d.dryRun toBool? dryRun }

end OutputConfig

namespace LibrariesConfig

/-- Reads what libraries the generated build refers to. -/
def decode? (v : Option Toml) : Option LibrariesConfig := do
  let [base, guestBase, baseLink, headerTarget, utilsLink, utils, hostLibrary] ←
    group? ["base_lib_prefix", "guest_base_lib_prefix", "base_lib_link_name", "vk_header_target",
      "utils_link_name", "utils_prefix", "host_library"] v | none
  let d : LibrariesConfig := {}
  return {
    base := ← orElse? d.base toText? base
    guestBase := ← orElse? d.guestBase toText? guestBase
    baseLink := ← orElse? d.baseLink toText? baseLink
    headerTarget := ← orElse? d.headerTarget toText? headerTarget
    utilsLink := ← orElse? d.utilsLink toText? utilsLink
    utils := ← orElse? d.utils toText? utils
    hostLibrary := ← orElse? d.hostLibrary toText? hostLibrary }

end LibrariesConfig

namespace GenerationConfig

def decode? (v : Option Toml) : Option GenerationConfig := do
  let [extraFeatures, suppress, commandLine] ←
    group? ["extra_features", "suppress", "command_line"] v | none
  return {
    extraFeatures := ← orElse? [] toTexts? extraFeatures
    suppress := ← given? toText? suppress
    commandLine := ← given? toText? commandLine }

end GenerationConfig

namespace Config

/-- Reads a configuration from the entries of a document. -/
def decode? (es : Toml.Entries) : Option Config := do
  let [output, libraries, generation] ←
    (table .header es).settings? ["output", "libraries", "generation"] | none
  return {
    output := ← OutputConfig.decode? output
    libraries := ← LibrariesConfig.decode? libraries
    generation := ← GenerationConfig.decode? generation }

def parse? (s : String) : Option Config := do decode? (← Toml.parse? s)

/-- The text of a new configuration file, which says the defaults. -/
def template : String := lines [
  "# vk-cereal configuration file",
  "#",
  "# Precedence: built-in defaults < this file < VK_CEREAL_* environment",
  "# variables < command-line flags.",
  "",
  "[output]",
  "# Directory of host and common modules; the host CMakeLists.txt goes here",
  "dir = \"./cereal\"",
  "",
  "# Directory of guest encoder modules and sources.mk (default: <dir>/guest)",
  "# guest_encoder_dir = \"./guest\"",
  "",
  "# Directory of host decoder modules (default: <dir>)",
  "# host_decoder_dir = \"./host\"",
  "",
  "# Preview artifacts without writing them",
  "dry_run = false",
  "",
  "[libraries]",
  "# Include prefixes substituted into module preambles",
  "base_lib_prefix = \"aemu/base\"",
  "guest_base_lib_prefix = \"aemu/base\"",
  "utils_prefix = \"utils\"",
  "",
  "# Names used in the host build fragment",
  "host_library = \"OpenglRender_vulkan_cereal\"",
  "base_lib_link_name = \"android-emu-base\"",
  "vk_header_target = \"\"",
  "utils_link_name = \"\"",
  "",
  "[generation]",
  "# Features generated in addition to the built-in allow-list",
  "extra_features = []",
  "",
  "# Regenerate a single module, leaving every other artifact untouched",
  "# (same as ANDROID_EMU_VK_CEREAL_SUPPRESS=<module>)",
  "# suppress = \"VkEncoder\"",
  "",
  "# Command line named in artifact banners",
  "# command_line = \"vk-cereal generate --schema vk.json\""]

end Config

end VulkanWire
