import VulkanWire.Gfxstream.Bindings
import VulkanWire.Gfxstream.Features
import VulkanWire.Gfxstream.Modules
import VulkanWire.Proofs.Generator.Commands
import VulkanWire.Proofs.Generator.Files

/-!
# The gate and the module table of the gfxstream build

The restrictions of the build are the same whatever features are added, and
they name two kinds of emitters only.

The table is the same for all settings up to the texts of preambles. Two of its
modules share a base name: the guest's and the host's header of the emulator's
structure types. They differ in name and side only and their emitters are
equal, so their headers are the same text wherever they land.

## Main results

* `unnamed_gate` — the kinds that no restriction names.
* `eq_or_twins` — modules with the same base name.
* `consistent_modules` — files of the same name have the same content.
-/

namespace VulkanWire

theorem Ledger.mem_of_find? {α : Type} {l : Ledger α} {name : String} {value : α}
    (h : l.find? name = some value) : (name, value) ∈ l.entries := by
  obtain ⟨entries⟩ := l
  change Ledger.find?.go name entries = some value at h
  induction entries with
  | nil => cases h
  | cons entry rest ih =>
      obtain ⟨n, v⟩ := entry
      rw [Ledger.find?.go] at h
      by_cases hn : n = name
      · rw [if_pos hn] at h
        injection h with h
        rw [hn, h]
        exact List.mem_cons_self
      · rw [if_neg hn] at h
        exact List.mem_cons_of_mem _ (ih h)

namespace Gfxstream

open Generator

/-! ## Restrictions -/

/-- No restriction of the build names other kinds than those of its two tables, whatever features are
added. -/
theorem unnamed_gate (extraFeatures : List String) {kind : EmitterKind}
    (h : kind ∉ [EmitterKind.dispatch, .functionTable]) : (gate extraFeatures).Unnamed kind := by
  intro name kinds hr
  have hentry : (name, kinds) ∈ restrictions.entries := Ledger.mem_of_find? hr
  have hfew : kinds = [.dispatch] ∨ kinds = [.functionTable] := by
    rcases List.mem_append.mp hentry with hdispatch | htable
    · obtain ⟨_, -, heq⟩ := List.mem_map.mp hdispatch
      exact Or.inl (Prod.mk.inj heq).2.symm
    · obtain ⟨_, -, heq⟩ := List.mem_map.mp htable
      exact Or.inr (Prod.mk.inj heq).2.symm
  simp only [List.mem_cons, List.not_mem_nil, or_false, not_or] at h
  rcases hfew with rfl | rfl
  · simpa only [List.mem_singleton] using h.1
  · simpa only [List.mem_singleton] using h.2

/-! ## Modules -/

/-- The base names of the modules, in emission order. -/
def basenames : List String := [
  "VkEncoder", "goldfish_vk_extension_structs_guest", "goldfish_vk_marshaling_guest",
  "goldfish_vk_deepcopy_guest", "goldfish_vk_transform_guest", "vulkan_gfxstream_structure_type",
  "func_table", "goldfish_vk_extension_structs", "goldfish_vk_marshaling", "goldfish_vk_deepcopy",
  "goldfish_vk_dispatch", "goldfish_vk_transform", "VkDecoder", "vulkan_gfxstream_structure_type",
  "vk_android_native_buffer_structure_type"]

theorem map_basename_modules (st : LayoutSettings) :
    (modules st).map (·.basename) = basenames := rfl

/-- The names of the modules, in emission order. -/
def moduleNames : List String := [
  "VkEncoder", "goldfish_vk_extension_structs_guest", "goldfish_vk_marshaling_guest",
  "goldfish_vk_deepcopy_guest", "goldfish_vk_transform_guest",
  "vulkan_gfxstream_structure_type_guest", "func_table", "goldfish_vk_extension_structs",
  "goldfish_vk_marshaling", "goldfish_vk_deepcopy", "goldfish_vk_dispatch",
  "goldfish_vk_transform", "VkDecoder", "vulkan_gfxstream_structure_type_host",
  "vk_android_native_buffer_structure_type"]

theorem map_name_modules (st : LayoutSettings) : (modules st).map (·.name) = moduleNames := rfl

/-- The module table and the bindings of the build pass all checks of assembly. -/
theorem sound_modules (st : LayoutSettings) : Sound none (modules st) bindings where
  distinct := by
    rw [map_name_modules]
    decide
  known := by
    rw [map_name_modules]
    decide
  kept := by
    intro name h
    cases h

/-- The guest's header of the emulator's structure types. -/
def guestTypes : ModuleSpec :=
  structureTypes "vulkan_gfxstream_structure_type_guest" "vulkan_gfxstream_structure_type"
    .guestEncoder "VK_GOOGLE_GFXSTREAM"

/-- The host's header of the emulator's structure types. -/
def hostTypes : ModuleSpec :=
  structureTypes "vulkan_gfxstream_structure_type_host" "vulkan_gfxstream_structure_type"
    .host "VK_GOOGLE_GFXSTREAM"

theorem getElem?_basename {st : LayoutSettings} {spec : ModuleSpec} {i : Nat}
    (h : (modules st)[i]? = some spec) : basenames[i]? = some spec.basename := by
  rw [← map_basename_modules st, List.getElem?_map, h]
  rfl

/-- Two places of the table with one base name are equal, unless they are those of the emulator's
structure types. -/
theorem place_eq_or_twins : ∀ i < 15, ∀ j < 15, basenames[i]? = basenames[j]? →
    i = j ∨ (i = 5 ∧ j = 13) ∨ (i = 13 ∧ j = 5) := by
  decide

/-- Modules with the same base name are equal, unless they are those of the emulator's structure
types. -/
theorem eq_or_twins {st : LayoutSettings} {spec other : ModuleSpec} (hspec : spec ∈ modules st)
    (hother : other ∈ modules st) (h : spec.basename = other.basename) :
    spec = other ∨ (spec = guestTypes ∧ other = hostTypes) ∨
      (spec = hostTypes ∧ other = guestTypes) := by
  obtain ⟨i, hi⟩ := List.mem_iff_getElem?.mp hspec
  obtain ⟨j, hj⟩ := List.mem_iff_getElem?.mp hother
  have hlength : (modules st).length = 15 := rfl
  have hi15 : i < 15 := hlength ▸ (List.getElem?_eq_some_iff.mp hi).1
  have hj15 : j < 15 := hlength ▸ (List.getElem?_eq_some_iff.mp hj).1
  have hsame : basenames[i]? = basenames[j]? := by
    rw [getElem?_basename hi, getElem?_basename hj, h]
  have hguest : (modules st)[5]? = some guestTypes := rfl
  have hhost : (modules st)[13]? = some hostTypes := rfl
  rcases place_eq_or_twins i hi15 j hj15 hsame with rfl | ⟨rfl, rfl⟩ | ⟨rfl, rfl⟩
  · left
    rw [hi] at hj
    injection hj
  · right
    left
    rw [hguest] at hi
    rw [hhost] at hj
    exact ⟨(Option.some.inj hi).symm, (Option.some.inj hj).symm⟩
  · right
    right
    rw [hhost] at hi
    rw [hguest] at hj
    exact ⟨(Option.some.inj hi).symm, (Option.some.inj hj).symm⟩

variable {o : GeneratorOptions} {gate : FeatureGate} {s : Schema}

/-- The two headers of the emulator's structure types come out the same. -/
theorem texts_twins :
    ((declare o guestTypes).performed gate s bindings).headerText =
        ((declare o hostTypes).performed gate s bindings).headerText ∧
      ((declare o guestTypes).performed gate s bindings).implText =
        ((declare o hostTypes).performed gate s bindings).implText := by
  have hguest : boundTo guestTypes.name bindings = [emulatorStructureTypes] := by decide
  have hhost : boundTo hostTypes.name bindings = [emulatorStructureTypes] := by decide
  have htext : ((declare o guestTypes).performed gate s bindings).text =
      ((declare o hostTypes).performed gate s bindings).text := by
    have hpieces : (declare o guestTypes).pieces gate s bindings =
        (declare o hostTypes).pieces gate s bindings := by
      have hbound : boundTo (declare o guestTypes).name bindings =
          boundTo (declare o hostTypes).name bindings := hguest.trans hhost.symm
      rw [OutputModule.pieces, OutputModule.pieces, hbound]
      rfl
    rw [text_performed_declare, text_performed_declare, hpieces]
  refine OutputModule.texts_congr ?_ htext
  rw [OutputModule.preambles_performed, OutputModule.preambles_performed]
  rfl

/-- Files of the same name have the same content, whatever the settings. -/
theorem consistent_modules (st : LayoutSettings) :
    Consistent o gate (modules st) bindings s where
  names := by
    have hall : ∀ base ∈ basenames, Path.IsName (base ++ ".h") ∧ Path.IsName (base ++ ".cpp") := by
      decide
    intro spec hspec
    refine hall spec.basename ?_
    rw [← map_basename_modules st]
    exact List.mem_map_of_mem hspec
  contents := by
    intro spec hspec other hother h
    rcases eq_or_twins hspec hother h with rfl | ⟨rfl, rfl⟩ | ⟨rfl, rfl⟩
    · exact ⟨rfl, rfl⟩
    · exact texts_twins
    · exact ⟨texts_twins.1.symm, texts_twins.2.symm⟩

end Gfxstream

end VulkanWire
