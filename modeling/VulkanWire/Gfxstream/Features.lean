import VulkanWire.Gate

/-!
# Features of the gfxstream build

Which features the emulator build generates code for, which of them only some
emitters process, and which types are kept whatever their feature.

## Main results

* `gate?_eq` — every restriction of the build names a supported feature.
* `evaluate_gate` — what the gate decides.
-/

namespace VulkanWire.Gfxstream

def coreVersions : List String :=
  ["VK_VERSION_1_0", "VK_VERSION_1_1", "VK_VERSION_1_2", "VK_VERSION_1_3"]

def instanceExtensions : List String :=
  ["VK_KHR_get_physical_device_properties2", "VK_KHR_sampler_ycbcr_conversion",
    "VK_KHR_external_semaphore_capabilities", "VK_KHR_external_memory_capabilities",
    "VK_KHR_external_fence_capabilities"]

def deviceExtensions : List String :=
  ["VK_KHR_storage_buffer_storage_class", "VK_KHR_vulkan_memory_model",
    "VK_KHR_buffer_device_address", "VK_KHR_maintenance1", "VK_KHR_maintenance2",
    "VK_KHR_maintenance3", "VK_KHR_bind_memory2", "VK_KHR_dedicated_allocation",
    "VK_KHR_get_memory_requirements2", "VK_KHR_shader_float16_int8",
    "VK_AMD_gpu_shader_half_float", "VK_NV_shader_subgroup_partitioned",
    "VK_KHR_shader_subgroup_extended_types", "VK_EXT_provoking_vertex",
    "VK_EXT_line_rasterization", "VK_EXT_transform_feedback",
    "VK_EXT_primitive_topology_list_restart", "VK_EXT_index_type_uint8",
    "VK_EXT_load_store_op_none", "VK_EXT_swapchain_colorspace", "VK_EXT_custom_border_color",
    "VK_EXT_shader_stencil_export", "VK_KHR_image_format_list", "VK_KHR_incremental_present",
    "VK_KHR_pipeline_executable_properties", "VK_EXT_queue_family_foreign",
    "VK_KHR_external_semaphore", "VK_KHR_external_semaphore_fd", "VK_KHR_external_memory",
    "VK_KHR_external_fence", "VK_KHR_external_fence_fd", "VK_EXT_device_memory_report",
    "VK_KHR_create_renderpass2", "VK_KHR_imageless_framebuffer",
    "VK_KHR_descriptor_update_template", "VK_EXT_swapchain_maintenance1",
    "VK_EXT_image_compression_control", "VK_EXT_image_compression_control_swapchain"]

/-- The supported extensions promoted to version 1.3. -/
def promotedExtensions : List String :=
  ["VK_KHR_copy_commands2", "VK_KHR_dynamic_rendering", "VK_KHR_format_feature_flags2",
    "VK_KHR_maintenance4", "VK_KHR_shader_integer_dot_product", "VK_KHR_shader_non_semantic_info",
    "VK_KHR_shader_terminate_invocation", "VK_KHR_synchronization2",
    "VK_KHR_zero_initialize_workgroup_memory", "VK_EXT_4444_formats",
    "VK_EXT_extended_dynamic_state", "VK_EXT_extended_dynamic_state2", "VK_EXT_image_robustness",
    "VK_EXT_inline_uniform_block", "VK_EXT_pipeline_creation_cache_control",
    "VK_EXT_pipeline_creation_feedback", "VK_EXT_private_data",
    "VK_EXT_shader_demote_to_helper_invocation", "VK_EXT_subgroup_size_control",
    "VK_EXT_texel_buffer_alignment", "VK_EXT_texture_compression_astc_hdr", "VK_EXT_tooling_info",
    "VK_EXT_ycbcr_2plane_444_formats"]

/-- The supported extensions of the host dispatch. -/
def dispatchExtensions : List String :=
  ["VK_EXT_debug_utils", "VK_KHR_surface", "VK_KHR_swapchain", "VK_KHR_xcb_surface",
    "VK_KHR_win32_surface", "VK_EXT_metal_surface", "VK_MVK_moltenvk",
    "VK_KHR_external_semaphore_win32", "VK_KHR_external_memory_win32",
    "VK_KHR_external_memory_fd"]

/-- The supported extensions of Android. -/
def androidExtensions : List String :=
  ["VK_ANDROID_native_buffer", "VK_ANDROID_external_memory_android_hardware_buffer",
    "VK_KHR_android_surface"]

/-- The supported extensions of the emulator. -/
def emulatorExtensions : List String :=
  ["VK_GOOGLE_gfxstream", "VK_EXT_graphics_pipeline_library"]

def supportedFeatures : List String :=
  coreVersions ++ instanceExtensions ++ deviceExtensions ++ promotedExtensions ++
    dispatchExtensions ++ androidExtensions ++ emulatorExtensions

/-- The features that only the dispatch table knows. -/
def dispatchOnly : List String :=
  ["VK_EXT_debug_utils", "VK_KHR_surface", "VK_KHR_xcb_surface", "VK_KHR_win32_surface",
    "VK_EXT_metal_surface", "VK_MVK_moltenvk", "VK_KHR_external_semaphore_win32",
    "VK_KHR_external_memory_win32", "VK_KHR_external_memory_fd"]

/-- The features that only the function table knows. -/
def functionTableOnly : List String :=
  ["VK_ANDROID_external_memory_android_hardware_buffer", "VK_KHR_android_surface"]

def restrictions : Ledger (List EmitterKind) :=
  ⟨dispatchOnly.map (·, [.dispatch]) ++ functionTableOnly.map (·, [.functionTable])⟩

/-- The types that are kept whatever their feature. -/
def exceptions : List String :=
  ["int", "int64_t", "double", "VkPresentScalingFlagsEXT", "VkPresentGravityFlagsEXT"]

/-- The gate of the build, with more features supported. -/
def gate (extraFeatures : List String) : FeatureGate :=
  let base := (FeatureGate.ofSupported supportedFeatures).withExceptions exceptions
  { extraFeatures.foldl FeatureGate.addSupported base with restrictions := restrictions }

/-! ## Entering restrictions one by one -/

/-- The same gate with its restrictions entered one after the other, each of which is refused if its
feature is not supported. -/
def gate? (extraFeatures : List String) : Except UnsupportedRestriction FeatureGate :=
  let base := (FeatureGate.ofSupported supportedFeatures).withExceptions exceptions
  restrictions.entries.foldlM (fun g r => g.restrict r.1 r.2)
    (extraFeatures.foldl FeatureGate.addSupported base)

/-- Restrictions of supported features are all entered, and they change nothing else. -/
theorem foldlM_restrict {rs : List (String × List EmitterKind)} {g : FeatureGate}
    (h : ∀ r ∈ rs, r.1 ∈ g.supported) :
    rs.foldlM (fun g r => g.restrict r.1 r.2) g =
      .ok { g with restrictions := rs.foldl (fun l r => l.insert r.1 r.2) g.restrictions } := by
  induction rs generalizing g with
  | nil => rfl
  | cons r rs ih =>
    rw [List.forall_mem_cons] at h
    have hfirst : g.restrict r.1 r.2 =
        .ok { g with restrictions := g.restrictions.insert r.1 r.2 } := by
      rw [FeatureGate.restrict, if_pos h.1]
    rw [List.foldlM_cons, hfirst]
    exact ih (g := { g with restrictions := g.restrictions.insert r.1 r.2 }) h.2

theorem mem_supported_foldl (names : List String) (g : FeatureGate) (name : String) :
    name ∈ (names.foldl FeatureGate.addSupported g).supported ↔
      name ∈ names ∨ name ∈ g.supported := by
  induction names generalizing g with
  | nil => simp
  | cons n names ih =>
    rw [List.foldl_cons, ih, FeatureGate.mem_supported_addSupported, List.mem_cons]
    grind

theorem restrictions_foldl (extraFeatures : List String) (g : FeatureGate) :
    (extraFeatures.foldl FeatureGate.addSupported g).restrictions = g.restrictions := by
  induction extraFeatures generalizing g with
  | nil => rfl
  | cons feature rest ih =>
    rw [List.foldl_cons, ih, FeatureGate.addSupported]
    split <;> rfl

theorem mem_supported_gate (extraFeatures : List String) (name : String) :
    name ∈ (gate extraFeatures).supported ↔ name ∈ extraFeatures ∨ name ∈ supportedFeatures := by
  show name ∈ (extraFeatures.foldl FeatureGate.addSupported
    ((FeatureGate.ofSupported supportedFeatures).withExceptions exceptions)).supported ↔ _
  rw [mem_supported_foldl, FeatureGate.supported_withExceptions, FeatureGate.ofSupported,
    mem_supported_foldl]
  exact or_congr_right (or_iff_left List.not_mem_nil)

/-- No restriction of the build is refused, whatever features are added. -/
theorem gate?_eq (extraFeatures : List String) : gate? extraFeatures = .ok (gate extraFeatures) := by
  have hknown : ∀ r ∈ restrictions.entries, r.1 ∈ supportedFeatures := by
    decide +kernel
  have hentered : restrictions.entries.foldl (fun l r => l.insert r.1 r.2) ∅ = restrictions := by
    decide +kernel
  have hsupported : ∀ r ∈ restrictions.entries, r.1 ∈ (extraFeatures.foldl FeatureGate.addSupported
      ((FeatureGate.ofSupported supportedFeatures).withExceptions exceptions)).supported := by
    intro r hr
    exact (mem_supported_gate extraFeatures r.1).mpr (.inr (hknown r hr))
  have hnone : (extraFeatures.foldl FeatureGate.addSupported
      ((FeatureGate.ofSupported supportedFeatures).withExceptions exceptions)).restrictions = ∅ := by
    rw [restrictions_foldl, FeatureGate.restrictions_withExceptions, FeatureGate.ofSupported,
      restrictions_foldl]
  rw [gate?, foldlM_restrict hsupported, hnone, hentered]
  rfl

/-- What the gate of the build decides about a feature. -/
theorem evaluate_gate (extraFeatures : List String) (name : String) :
    (gate extraFeatures).evaluate name =
      if name ∈ extraFeatures ∨ name ∈ supportedFeatures then ⟨true, restrictions.find? name⟩
      else .unsupported := by
  simp only [FeatureGate.evaluate, mem_supported_gate]
  rfl

end VulkanWire.Gfxstream
