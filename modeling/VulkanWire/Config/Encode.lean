import VulkanWire.Config.Layers
import VulkanWire.Json.Compose

/-!
# Settings as JSON documents

The settings of a run as documents that other tools can look at: every setting
is there, and one that is not given is `null`.
-/

namespace VulkanWire

open Json (text record ofOption ofTexts)

namespace FragmentSettings

/-- The document of the names that build fragments refer to. -/
def encode (s : FragmentSettings) : Json :=
  record [
    ("command_line", text s.commandLine),
    ("host_library", text s.hostLibrary),
    ("base_lib_link_name", text s.baseLibrary),
    ("header_target", text s.headerTarget),
    ("utils_link_name", text s.utilsLibrary)]

end FragmentSettings

namespace GeneratorOptions

/-- The document of the options of a run, with the paths that follow from them. -/
def encode (o : GeneratorOptions) : Json :=
  record [
    ("output_dir", o.outputDir.encode),
    ("guest_encoder_dir", ofOption Path.encode o.guestEncoderDir),
    ("host_decoder_dir", ofOption Path.encode o.hostDecoderDir),
    ("suppress_except", ofOption text o.suppressExcept),
    ("dry_run", .bool o.dryRun),
    ("is_suppressing", .bool o.isSuppressing),
    ("template_command_line", text o.templates.commandLine),
    ("fragments", o.fragments.encode),
    ("guest_dir", o.guestDir.encode),
    ("host_dir", o.hostDir.encode),
    ("role_dirs", record (ModuleRole.all.map fun r => (r.spelling, (o.roleDir r).encode))),
    ("guest_fragment_path", o.guestFragmentPath.encode),
    ("host_fragment_path", o.hostFragmentPath.encode)]

end GeneratorOptions

namespace LayoutSettings

def encode (s : LayoutSettings) : Json :=
  record [
    ("guest_base_lib_prefix", text s.guestBase),
    ("base_lib_prefix", text s.base),
    ("utils_prefix", text s.utils)]

end LayoutSettings

namespace ModuleSpec

def encode (s : ModuleSpec) : Json :=
  record [
    ("name", text s.name),
    ("basename", text s.basename),
    ("role", text s.role.spelling),
    ("dir", ofOption Path.encode s.directory),
    ("use_namespace", .bool s.useNamespace),
    ("header_only", .bool s.headerOnly),
    ("impl_only", .bool s.implOnly),
    ("suppress_feature_guards", .bool s.suppressFeatureGuards),
    ("suppress_api_headers", .bool s.suppressApiHeaders),
    ("extra_header", text s.extraHeader),
    ("extra_impl", text s.extraImpl)]

end ModuleSpec

namespace Config

def encode (c : Config) : Json :=
  record [
    ("output", record [
      ("dir", c.output.dir.encode),
      ("guest_encoder_dir", ofOption Path.encode c.output.guestEncoderDir),
      ("host_decoder_dir", ofOption Path.encode c.output.hostDecoderDir),
      ("dry_run", .bool c.output.dryRun)]),
    ("libraries", record [
      ("base_lib_prefix", text c.libraries.base),
      ("guest_base_lib_prefix", text c.libraries.guestBase),
      ("base_lib_link_name", text c.libraries.baseLink),
      ("vk_header_target", text c.libraries.headerTarget),
      ("utils_link_name", text c.libraries.utilsLink),
      ("utils_prefix", text c.libraries.utils),
      ("host_library", text c.libraries.hostLibrary)]),
    ("generation", record [
      ("extra_features", ofTexts c.generation.extraFeatures),
      ("suppress", ofOption text c.generation.suppress),
      ("command_line", ofOption text c.generation.commandLine)])]

end Config

namespace EnvOverrides

def encode (e : EnvOverrides) : Json :=
  record [
    ("guest_encoder_dir", ofOption Path.encode e.guestEncoderDir),
    ("host_decoder_dir", ofOption Path.encode e.hostDecoderDir),
    ("base_lib_prefix", ofOption text e.base),
    ("guest_base_lib_prefix", ofOption text e.guestBase),
    ("base_lib_link_name", ofOption text e.baseLink),
    ("vk_header_target", ofOption text e.headerTarget),
    ("utils_link_name", ofOption text e.utilsLink),
    ("utils_prefix", ofOption text e.utils),
    ("suppress", ofOption text e.suppress)]

end EnvOverrides

end VulkanWire
