import VulkanWire.Emitter.Basic
import VulkanWire.Output.Spec

/-!
# Modules of the gfxstream build

The module table of the emulator build, in emission order: guest modules,
common modules, host modules. The include directories of three libraries are
settings; everything else is fixed. Every module has a header.
-/

namespace VulkanWire

/-- The include directories that module preambles refer to. -/
structure LayoutSettings where
  /-- The base library of the guest. -/
  guestBase : String := "aemu/base"
  /-- The base library of the host. -/
  base : String := "aemu/base"
  /-- The utility library of the host. -/
  utils : String := "utils"
deriving DecidableEq, Repr, Inhabited

namespace Gfxstream

/-! ## Pieces of preambles -/

/-- Lets host code see every guest struct. -/
def nativeBufferInclude : String := "#include \"vk_android_native_buffer.h\""

/-- Includes the definitions of private structs. -/
def privateInclude : String := "#include \"goldfish_vk_private_defs.h\""

/-- Disables the extensions that the guest implements by hand. -/
def guestUndefs : String := lines [
  "",
  "// Stuff we are not going to use but if included,",
  "// will cause compile errors. These are Android Vulkan",
  "// required extensions, but the approach will be to",
  "// implement them completely on the guest side.",
  "#undef VK_KHR_android_surface",
  "#undef VK_ANDROID_external_memory_android_hardware_buffer"]

def guestIncludes : String := lines ["", "#include \"vk_platform_compat.h\""]

def guestImplIncludes : String := lines [
  "",
  "#include \"goldfish_vk_extension_structs_guest.h\"",
  privateInclude,
  "",
  "#include <cstring>"]

def commonImplIncludes : String := lines [
  "",
  "#include \"goldfish_vk_extension_structs.h\"",
  privateInclude,
  "#include <string.h>"]

def deepCopyIncludes : String := lines ["", "#include \"vk_util.h\""]

/-- The macro that places an offset in the value block of an extension. -/
def structureTypePreamble (extension : String) : String :=
  s!"\n#define {extension}_ENUM(type,id) ((type)(1000000000 + (1000 * ({extension}_NUMBER - 1)) + (id)))\n"

/-! ## Kinds of modules -/

def guest (basename extraHeader extraImpl : String) : ModuleSpec :=
  { ModuleSpec.ofBasename basename .guestEncoder with extraHeader, extraImpl }

def common (basename extraHeader extraImpl : String) : ModuleSpec :=
  { ModuleSpec.ofBasename basename .common with extraHeader, extraImpl }

/-- A host module sees every guest struct, unless it leaves the API headers out. -/
def host (s : ModuleSpec) : ModuleSpec :=
  if s.suppressApiHeaders then s
  else { s with extraHeader := nativeBufferInclude ++ "\n" ++ s.extraHeader }

/-- A header with the structure types of one extension. -/
def structureTypes (name basename : String) (role : ModuleRole) (extension : String) : ModuleSpec :=
  { ModuleSpec.ofBasename basename role with
    name
    headerOnly := true
    suppressFeatureGuards := true
    useNamespace := false
    suppressApiHeaders := true
    extraHeader := structureTypePreamble extension }

/-! ## The modules -/

def guestModules (s : LayoutSettings) : List ModuleSpec := [
  guest "VkEncoder"
    (lines [
      "",
      s!"#include \"{s.guestBase}/AndroidHealthMonitor.h\"",
      privateInclude,
      "#include <memory>",
      "",
      "namespace gfxstream \x7b",
      "namespace guest \x7b",
      "class IOStream;",
      "\x7d  // namespace guest",
      "\x7d  // namespace gfxstream"])
    (lines [
      "",
      "#include \"EncoderDebug.h\"",
      "#include \"IOStream.h\"",
      "#include \"Resources.h\"",
      "#include \"ResourceTracker.h\"",
      "#include \"Validation.h\"",
      "#include \"VulkanStreamGuest.h\"",
      "",
      s!"#include \"{s.guestBase}/AlignedBuf.h\"",
      s!"#include \"{s.guestBase}/BumpPool.h\"",
      "",
      "#include \"goldfish_vk_marshaling_guest.h\"",
      "#include \"goldfish_vk_deepcopy_guest.h\"",
      privateInclude,
      "#include \"goldfish_vk_transform_guest.h\"",
      "",
      "#include <memory>",
      "#include <optional>",
      "#include <string>"]),
  guest "goldfish_vk_extension_structs_guest"
    ("\n#include \"vk_platform_compat.h\"\n" ++ privateInclude ++ guestUndefs) "",
  guest "goldfish_vk_marshaling_guest"
    (guestIncludes ++
      lines [
        "",
        "#include \"goldfish_vk_marshaling_guest.h\"",
        privateInclude,
        "#include \"VulkanStreamGuest.h\""] ++
      guestUndefs)
    guestImplIncludes,
  guest "goldfish_vk_deepcopy_guest"
    (guestIncludes ++
      lines [
        "",
        privateInclude,
        s!"#include \"{s.guestBase}/BumpPool.h\"",
        "using gfxstream::guest::Allocator;"] ++
      "using gfxstream::guest::BumpPool;" ++ guestUndefs)
    (guestImplIncludes ++ deepCopyIncludes),
  guest "goldfish_vk_transform_guest"
    (guestIncludes ++ lines ["", privateInclude])
    (guestImplIncludes ++ lines ["", "#include \"ResourceTracker.h\""]),
  structureTypes "vulkan_gfxstream_structure_type_guest" "vulkan_gfxstream_structure_type"
    .guestEncoder "VK_GOOGLE_GFXSTREAM",
  guest "func_table" ""
    (lines [
      "",
      "#include \"VkEncoder.h\"",
      "#include \"ResourceTracker.h\"",
      "",
      privateInclude,
      "",
      "#include <log/log.h>",
      "#include <cstring>",
      "",
      "#undef VK_KHR_android_surface",
      "#if defined(LINUX_GUEST_BUILD)",
      "#undef VK_ANDROID_native_buffer",
      "#endif"])]

def commonModules (s : LayoutSettings) : List ModuleSpec := [
  common "goldfish_vk_extension_structs" (lines ["", nativeBufferInclude, privateInclude]) "",
  common "goldfish_vk_marshaling"
    (lines [
      "",
      nativeBufferInclude,
      privateInclude,
      "",
      "#include \"VulkanStream.h\"",
      s!"#include \"{s.base}/files/StreamSerializing.h\""])
    commonImplIncludes,
  common "goldfish_vk_deepcopy"
    (lines [
      "",
      nativeBufferInclude,
      privateInclude,
      s!"#include \"{s.base}/BumpPool.h\"",
      "using android::base::Allocator;",
      "using android::base::BumpPool;"])
    (commonImplIncludes ++ deepCopyIncludes),
  common "goldfish_vk_dispatch"
    (lines [
      "",
      nativeBufferInclude,
      privateInclude,
      "namespace gfxstream \x7b",
      "namespace vk \x7b",
      "",
      "struct VulkanDispatch;",
      "",
      "\x7d // namespace vk",
      "\x7d // namespace gfxstream",
      "using DlOpenFunc = void* (void);",
      "using DlSymFunc = void* (void*, const char*);"])
    (lines ["", "#include <stdio.h>", "#include <stdlib.h>", "#include <string.h>"]),
  common "goldfish_vk_transform"
    (lines [
      "",
      nativeBufferInclude,
      privateInclude,
      "#include \"goldfish_vk_extension_structs.h\""])
    (lines ["", "#include \"VkDecoderGlobalState.h\""])]

def decoderModule (s : LayoutSettings) : ModuleSpec :=
  { ModuleSpec.ofBasename "VkDecoder" .host with
    useNamespace := false
    extraHeader := lines [
      "",
      "#include \"VkDecoderContext.h\"",
      s!"#include \"{s.utils}/GfxApiLogger.h\"",
      "",
      "#include <memory>"]
    extraImpl := lines [
      "",
      "#include \"common/goldfish_vk_marshaling.h\"",
      "#include \"common/goldfish_vk_private_defs.h\"",
      "#include \"common/goldfish_vk_transform.h\"",
      "",
      s!"#include \"{s.base}/BumpPool.h\"",
      s!"#include \"{s.base}/system/System.h\"",
      s!"#include \"{s.base}/Tracing.h\"",
      "#include \"render-utils/IOStream.h\"",
      "",
      "#include \"VkDecoderGlobalState.h\"",
      "#include \"VulkanDispatch.h\"",
      "#include \"VulkanStream.h\"",
      "",
      "#include <functional>",
      "#include <optional>",
      "#include <unordered_map>"] }

def hostModules (s : LayoutSettings) : List ModuleSpec :=
  [decoderModule s,
    structureTypes "vulkan_gfxstream_structure_type_host" "vulkan_gfxstream_structure_type"
      .host "VK_GOOGLE_GFXSTREAM",
    structureTypes "vk_android_native_buffer_structure_type"
      "vk_android_native_buffer_structure_type" .host "VK_ANDROID_NATIVE_BUFFER"].map host

/-- The modules in emission order. -/
def modules (s : LayoutSettings) : List ModuleSpec :=
  guestModules s ++ commonModules s ++ hostModules s

end Gfxstream

end VulkanWire
