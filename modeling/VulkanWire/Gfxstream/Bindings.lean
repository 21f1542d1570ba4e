import VulkanWire.Emitter.Standard
import VulkanWire.Generator.Basic

/-!
# Emitters of the gfxstream build

Which emitter writes which module of the emulator build, in binding order.
-/

namespace VulkanWire.Gfxstream

/-- The structure types of the emulator's own extension. -/
def emulatorStructureTypes : StandardEmitter :=
  .structureType ⟨"VK_GOOGLE_gfxstream", "VK_GOOGLE_GFXSTREAM_ENUM"⟩

/-- The structure types of the native buffer extension. -/
def nativeBufferStructureTypes : StandardEmitter :=
  .structureType ⟨"VK_ANDROID_native_buffer", "VK_ANDROID_NATIVE_BUFFER_ENUM"⟩

def bindings : List (Binding StandardEmitter) := [
  ⟨.encoder {}, "VkEncoder"⟩,
  ⟨.extensionStructs, "goldfish_vk_extension_structs_guest"⟩,
  ⟨.marshaling { side := .guest }, "goldfish_vk_marshaling_guest"⟩,
  ⟨.deepCopy, "goldfish_vk_deepcopy_guest"⟩,
  ⟨.transform "ResourceTracker", "goldfish_vk_transform_guest"⟩,
  ⟨.functionTable {}, "func_table"⟩,
  ⟨.extensionStructs, "goldfish_vk_extension_structs"⟩,
  ⟨.marshaling { side := .host }, "goldfish_vk_marshaling"⟩,
  ⟨.deepCopy, "goldfish_vk_deepcopy"⟩,
  ⟨.dispatch {}, "goldfish_vk_dispatch"⟩,
  ⟨.transform "VkDecoderGlobalState", "goldfish_vk_transform"⟩,
  ⟨.decoder, "VkDecoder"⟩,
  ⟨emulatorStructureTypes, "vulkan_gfxstream_structure_type_guest"⟩,
  ⟨emulatorStructureTypes, "vulkan_gfxstream_structure_type_host"⟩,
  ⟨nativeBufferStructureTypes, "vk_android_native_buffer_structure_type"⟩]

end VulkanWire.Gfxstream
