import VulkanWire.Proofs.Emitter.Numbering
import VulkanWire.Proofs.Emitter.Routines
import VulkanWire.Proofs.Gfxstream.Layout
import VulkanWire.Proofs.Registry.Contents

/-!
# Calls between generated routines

Six modules of the gfxstream build hold routines of structs: both sides'
marshaling, deep copies and transformations. The routine of a struct calls those
of the structs nested in it. Whether a member's type is a struct, the registry
decides, and it knows the structs of restricted features and the aliases of
every category as well; declared are the structs that the emitter is told of,
those of features without restriction. So a call finds its declaration unless
its struct is hidden from the emitter in one of these two ways.

## Main definitions

* `Schema.Introduces`, `Schema.Hides` — the structs that routines are generated
  for, and those that are only called.
* `Linked` — what a module with routines of structs calls and declares.

## Main results

* `nested_routines_declared` — these modules after a complete run.
* `surface_routines_undeclared` — calls without a declaration.
-/

namespace VulkanWire

section

variable {gate : FeatureGate} {s : Schema} {name : String}

/-- A supported feature without restriction introduces a struct with a name. -/
def Schema.Introduces (s : Schema) (gate : FeatureGate) (name : String) : Prop :=
  ∃ f ∈ s.features, gate.isUnrestricted f.name = true ∧ ∃ d, .struct d ∈ f.elements ∧ d.name = name

/-- No such feature introduces a struct with a name, but a restricted feature does, or the name is
recorded as an alias that is no struct. -/
def Schema.Hides (s : Schema) (gate : FeatureGate) (name : String) : Prop :=
  ¬ s.Introduces gate name ∧ ∃ f ∈ s.features, ∃ e ∈ f.elements, e.name = name ∧
    (e.category = .struct ∧ gate.isSupported f.name = true ∧
        (gate.restriction? f.name).isSome = true ∨
      e.category ≠ .struct ∧ e.aliasOf.isSome = true ∧
        (gate.isSupported f.name || gate.keeps e) = true)

theorem Element.exists_of_category_struct {e : Element} (h : e.category = .struct) :
    ∃ d, e = .struct d := by
  cases e with
  | struct d => exact ⟨d, rfl⟩
  | type d => cases h
  | group d => cases h
  | enum d => cases h
  | command d => cases h

/-- What is recorded as a struct or as an alias is introduced as a struct or hidden. -/
theorem Schema.introduces_or_hides {record : Record} (h : record ∈ s.recorded gate)
    (hname : record.definition.name = name)
    (hkind : record.definition.category = .struct ∨ record.definition.aliasOf.isSome = true) :
    s.Introduces gate name ∨ s.Hides gate name := by
  by_cases hopen : s.Introduces gate name
  · exact .inl hopen
  obtain ⟨f, hf, hrecord⟩ := List.mem_flatMap.mp h
  obtain ⟨e, he, rfl⟩ := List.mem_map.mp hrecord
  obtain ⟨hordered, hkept⟩ := List.mem_filter.mp he
  have helement : e ∈ f.elements := Feature.mem_orderedElements.mp hordered
  refine .inr ⟨hopen, f, hf, e, helement, hname, ?_⟩
  by_cases hstruct : e.category = .struct
  · obtain ⟨d, rfl⟩ := Element.exists_of_category_struct hstruct
    have hs : gate.isSupported f.name = true := by
      simpa only [FeatureGate.keeps, Bool.or_false] using hkept
    refine .inl ⟨rfl, hs, ?_⟩
    cases hr : gate.restriction? f.name with
    | some kinds => rfl
    | none =>
        refine absurd ⟨f, hf, ?_, d, helement, hname⟩ hopen
        rw [FeatureGate.isUnrestricted, hs, hr]
        rfl
  · exact .inr ⟨hstruct, hkind.resolve_left hstruct, hkept⟩

/-- A piece is an emitter's answer to a struct, with some registry. -/
def Piece.Tells (p : Piece) (r : Registry) (d : StructDef) : Prop :=
  p.cue? = some ⟨r, .element (.struct d)⟩

/-- What a module with the routines of structs calls and declares. -/
structure Linked (gate : FeatureGate) (s : Schema) (kind : EmitterKind) (m : OutputModule)
    (pieces : List Piece) : Prop where
  /-- It has the answers to exactly the structs of unrestricted features. -/
  told : ∀ d, (∃ p ∈ pieces, ∃ r, p.Tells r d) ↔
    ∃ f ∈ s.features, gate.isUnrestricted f.name = true ∧ .struct d ∈ f.elements
  /-- The routines of such a struct, unless it is an alias, call those of every nested one. -/
  calls : ∀ p ∈ pieces, ∀ r d, p.Tells r d → d.aliasOf = none → ∀ stem ∈ kind.stems,
    ∃ body, Implements m.implementation (stem ++ d.name) body ∧
      ∀ type ∈ kind.nestedTypes r d, Calls body (stem ++ type)
  /-- These are declared in the header, unless they are hidden. -/
  declares : ∀ p ∈ pieces, ∀ r d, p.Tells r d → ∀ type ∈ kind.nestedTypes r d,
    (s.Introduces gate type ∧ ∀ stem ∈ kind.stems, Declares m.header (stem ++ type)) ∨
      s.Hides gate type

/-! ## One emitter -/

namespace StandardEmitter

variable {e : StandardEmitter} {guarded : Bool} {p : Piece} {r : Registry} {d : StructDef}

/-- An answer to a struct is one of an emitter of the same kind, and by then the registry has what
has been recorded so far. -/
theorem exists_of_tells (hp : p ∈ performance guarded (s.script gate) [e]) (htells : p.Tells r d) :
    (∃ q ∈ s.script gate, ⟨r, .element (.struct d)⟩ ∈ q.cues ∧ q.admitsKind e.kind = true) ∧
      ∃ e' : StandardEmitter, e'.kind = e.kind ∧
        p.text = (e'.respond r (.element (.struct d))).1 := by
  obtain ⟨q, hq, hc, hadmits, e', hsame, htext⟩ := exists_of_mem_performance kind_after hp htells
  exact ⟨⟨q, hq, hc, hadmits⟩, e', hsame, htext⟩

/-- Alone in its module, an emitter of a kind that no restriction names hears the structs of
unrestricted features. -/
theorem tells_iff (h : gate.Unnamed e.kind) :
    (∃ p ∈ performance guarded (s.script gate) [e], ∃ r, p.Tells r d) ↔
      ∃ f ∈ s.features, gate.isUnrestricted f.name = true ∧ .struct d ∈ f.elements := by
  constructor
  · rintro ⟨p, hp, r, htells⟩
    obtain ⟨⟨q, hq, hc, hadmits⟩, -⟩ := exists_of_tells hp htells
    exact exists_feature_of_told h hq hc hadmits
  · rintro ⟨f, hf, hopen, he⟩
    obtain ⟨q, hq, hadmits, r, hc⟩ := exists_told h hf hopen he
    obtain ⟨e', -, hmem⟩ := exists_mem_performance kind_after guarded hq hc hadmits
    exact ⟨_, hmem, r, rfl⟩

/-- Its header then declares the routines of all these structs. -/
theorem declares_of_introduces (h : gate.Unnamed e.kind) (hname : s.Introduces gate name)
    {stem : String} (hstem : stem ∈ e.kind.stems) :
    Declares (Piece.texts (performance guarded (s.script gate) [e])).header (stem ++ name) := by
  obtain ⟨f, hf, hopen, d, he, rfl⟩ := hname
  obtain ⟨p, hp, r, htells⟩ := (tells_iff h).mpr ⟨f, hf, hopen, he⟩
  obtain ⟨-, e', hsame, htext⟩ := exists_of_tells hp htells
  have hdeclared : Declares p.text.header (stem ++ d.name) := by
    rw [htext]
    exact declares_answer (hsame ▸ hstem) r d
  exact hdeclared.trans (Emission.within_concat (List.mem_map_of_mem hp)).1

/-- A nested struct is one of them or hidden. -/
theorem introduces_or_hides_of_nested (hp : p ∈ performance guarded (s.script gate) [e])
    (htells : p.Tells r d) {kind : EmitterKind} {type : String}
    (htype : type ∈ kind.nestedTypes r d) : s.Introduces gate type ∨ s.Hides gate type := by
  obtain ⟨⟨q, hq, hc, -⟩, -⟩ := exists_of_tells hp htells
  obtain ⟨rs, kinds, hrs, hgains⟩ := Registry.exists_gains_of_mem_script hq hc
  obtain ⟨m, -, -, hstruct⟩ := EmitterKind.exists_of_mem_nestedTypes htype
  obtain ⟨record, hrecord, hname, hkind⟩ := hgains.exists_of_isStruct hstruct
  exact Schema.introduces_or_hides (hrs.subset hrecord) hname hkind

/-- What an emitter leaves in a module of its own. -/
theorem linked {m : OutputModule} (h : gate.Unnamed e.kind)
    (htext : m.text = Piece.texts (performance guarded (s.script gate) [e])) :
    Linked gate s e.kind m (performance guarded (s.script gate) [e]) where
  told d := tells_iff h
  calls := by
    intro p hp r d htells halias stem hstem
    obtain ⟨-, e', hsame, hanswer⟩ := exists_of_tells hp htells
    obtain ⟨body, himplements, hcalls⟩ := exists_calls (hsame ▸ hstem) r halias
    rw [hsame] at hcalls
    refine ⟨body, ?_, hcalls⟩
    have hpiece : Within p.text.implementation m.text.implementation := by
      rw [htext]
      exact (Emission.within_concat (List.mem_map_of_mem hp)).2
    rw [← hanswer] at himplements
    exact himplements.trans hpiece
  declares := by
    intro p hp r d htells type htype
    rcases introduces_or_hides_of_nested hp htells htype with hopen | hhidden
    · refine .inl ⟨hopen, fun stem hstem => ?_⟩
      show Declares m.text.header (stem ++ type)
      rw [htext]
      exact declares_of_introduces h hopen hstem
    · exact .inr hhidden

end StandardEmitter

end

/-! ## The build -/

namespace Gfxstream

open Generator

/-- Every module of the build has a single emitter. -/
theorem exists_boundTo {st : LayoutSettings} {m : OutputModule} (h : m.spec ∈ modules st) :
    ∃ e : StandardEmitter, boundTo m.name bindings = [e] := by
  have hall : ∀ name ∈ moduleNames, (boundTo name bindings).length = 1 := by decide
  have hname : m.name ∈ moduleNames := by
    rw [← map_name_modules st]
    exact List.mem_map_of_mem h
  exact List.length_eq_one_iff.mp (hall m.name hname)

/-- No restriction names a kind that generates routines of structs. -/
theorem unnamed_routine (extraFeatures : List String) {kind : EmitterKind}
    (h : kind ∈ EmitterKind.routineKinds) : (gate extraFeatures).Unnamed kind := by
  refine unnamed_gate extraFeatures ?_
  revert kind
  decide

/-- In a complete run of the gfxstream build, for every valid schema, all extra features and all
layout settings, every routine that marshaling, deep copies or transformations call for a nested
struct is declared, or defined as another one, in the header of the same module by the same
emitter, unless no supported feature without restriction introduces that struct: then a restricted
one does, or the name is an alias that is no struct, and the emitter is never told of it. -/
theorem nested_routines_declared (o : GeneratorOptions) (extraFeatures : List String)
    (st : LayoutSettings) {s : Schema} (hall : o.suppressExcept = none) (hs : s.validate = .ok ())
    (d : Disk) :
    ∃ g report g' d', assemble o (gate extraFeatures) (modules st) bindings = .ok g ∧
      (g.run s : OnDisk _).run d = ((.ok report, g'), d') ∧
      g'.modules.map (·.spec) = modules st ∧
      ∀ m ∈ g'.modules, ∀ e ∈ boundTo m.name bindings, e.kind ∈ EmitterKind.routineKinds →
        boundTo m.name bindings = [e] ∧
          m.text = Piece.texts (m.pieces (gate extraFeatures) s bindings) ∧
          Linked (gate extraFeatures) s e.kind m (m.pieces (gate extraFeatures) s bindings) := by
  have hsound : Sound o.suppressExcept (modules st) bindings := by
    rw [hall]
    exact sound_modules st
  obtain ⟨report, g', d', hrun, hmodules⟩ := exists_run_assembled hsound hall hs d
  have hspecs : g'.modules.map (·.spec) = modules st := by
    rw [hmodules, List.map_map]
    simp only [Function.comp_def, spec_performed_declare, List.map_id']
  refine ⟨_, report, g', d', assemble_eq_ok_iff.mpr ⟨hsound, rfl⟩, hrun, hspecs, ?_⟩
  intro m hm e he hkind
  have hspec : m.spec ∈ modules st := by
    rw [← hspecs]
    exact List.mem_map_of_mem hm
  obtain ⟨e', hbound⟩ := exists_boundTo hspec
  rw [hbound] at he
  cases List.mem_singleton.mp he
  rw [hmodules] at hm
  have htext := text_of_mem_performed hm
  refine ⟨hbound, htext, ?_⟩
  rw [OutputModule.pieces, hbound] at htext ⊢
  exact StandardEmitter.linked (unnamed_routine extraFeatures hkind) htext

/-- A version with a struct nested in another one. -/
def rectSchema : Schema where
  features := [
    { name := "VK_VERSION_1_0"
      elements := [
        .struct { name := "VkExtent2D" },
        .struct { name := "VkRect2D"
                  members := [{ name := "extent", typeName := "VkExtent2D" }] }] }]

/-- The nested struct, generated into an empty file system. -/
theorem nested_routines_declared_sample :
    ∃ g report g' d', assemble { outputDir := "out" } (gate []) (modules {}) bindings = .ok g ∧
      (g.run rectSchema : OnDisk _).run ⟨[], []⟩ = ((.ok report, g'), d') ∧
      g'.modules.map (·.spec) = modules {} ∧
      ∀ m ∈ g'.modules, ∀ e ∈ boundTo m.name bindings, e.kind ∈ EmitterKind.routineKinds →
        boundTo m.name bindings = [e] ∧
          m.text = Piece.texts (m.pieces (gate []) rectSchema bindings) ∧
          Linked (gate []) rectSchema e.kind m (m.pieces (gate []) rectSchema bindings) :=
  nested_routines_declared { outputDir := "out" } [] {} rfl rfl ⟨[], []⟩

/-! ## Calls without a declaration -/

/-- A struct that holds one of the surface extension and refers to itself under an alias. -/
def swapchainFormat : StructDef where
  name := "VkSwapchainFormatKHR"
  members := [
    { name := "format", typeName := "VkSurfaceFormatKHR" },
    { name := "next", typeName := "VkFormatChain", pointer := 1 }]

/-- The surface extension, which only the dispatch table knows, introduces a struct, and the
swapchain extension one that holds it, with an alias that is a plain type. -/
def surfaceSchema : Schema where
  features := [
    { name := "VK_KHR_surface", kind := .instanceExtension
      elements := [.struct { name := "VkSurfaceFormatKHR" }] },
    { name := "VK_KHR_swapchain", kind := .deviceExtension
      elements := [
        .type { name := "VkFormatChain", aliasOf := some "VkSwapchainFormatKHR" },
        .struct swapchainFormat] }]

/-- What the build's gate knows of the two extensions. -/
def surfaceGate : FeatureGate where
  supported := ["VK_KHR_surface", "VK_KHR_swapchain"]
  restrictions := ⟨[("VK_KHR_surface", [.dispatch])]⟩
  exceptions := (gate []).exceptions

theorem script_surfaceSchema :
    surfaceSchema.script (gate []) = surfaceSchema.script surfaceGate := by
  have hdecisions : ∀ f ∈ surfaceSchema.features,
      (if f.name ∈ ([] : List String) ∨ f.name ∈ supportedFeatures then
        ⟨true, restrictions.find? f.name⟩ else .unsupported) = surfaceGate.evaluate f.name := by
    decide +kernel
  refine Schema.script_congr (fun f hf => ?_) (by rw [surfaceGate])
  rw [evaluate_gate]
  exact hdecisions f hf

/-- The types of the members that deep copies take for structs without being told of them. -/
def undeclaredTypes : List String := ["VkSurfaceFormatKHR", "VkFormatChain"]

/-- When the swapchain extension's struct is told, the registry takes both members for structs. -/
theorem exists_tells_swapchainFormat :
    ∃ p ∈ performance true (surfaceSchema.script (gate [])) [StandardEmitter.deepCopy], ∃ r,
      p.Tells r swapchainFormat ∧
        ∀ type ∈ undeclaredTypes, type ∈ EmitterKind.deepCopy.nestedTypes r swapchainFormat := by
  rw [script_surfaceSchema]
  refine ⟨_, List.mem_of_getElem? (i := 6) rfl, _, rfl, ?_⟩
  decide +kernel

/-- The header names the routine of neither. -/
theorem not_declares_undeclaredTypes : ∀ type ∈ undeclaredTypes,
    ¬ Declares (Piece.texts (performance true (surfaceSchema.script (gate []))
      [StandardEmitter.deepCopy])).header ("deepcopy_" ++ type) := by
  rw [script_surfaceSchema]
  have hnowhere : ∀ type ∈ undeclaredTypes, ¬ Within ("deepcopy_" ++ type) (Piece.texts
      (performance true (surfaceSchema.script surfaceGate)
        [StandardEmitter.deepCopy])).header := by
    decide +kernel
  exact fun type htype h => hnowhere type htype h.named

/-- The declaration of the host's deep copies. -/
def deepCopies : ModuleSpec := (modules {}).get ⟨9, by decide⟩

/-- The host's deep copies after a complete run over the two extensions. -/
def surfaceCopies : OutputModule :=
  ((declare { outputDir := "out" } deepCopies).performed (gate []) surfaceSchema bindings).spent

theorem boundTo_surfaceCopies : boundTo surfaceCopies.name bindings = [.deepCopy] := by
  show boundTo deepCopies.name bindings = _
  decide

theorem pieces_surfaceCopies : surfaceCopies.pieces (gate []) surfaceSchema bindings =
    performance true (surfaceSchema.script (gate [])) [StandardEmitter.deepCopy] := by
  rw [OutputModule.pieces, boundTo_surfaceCopies]
  rfl

theorem text_surfaceCopies : surfaceCopies.text =
    Piece.texts (performance true (surfaceSchema.script (gate [])) [StandardEmitter.deepCopy]) := by
  rw [← pieces_surfaceCopies]
  exact text_of_mem_performed (List.mem_map_of_mem (List.get_mem (modules {}) ⟨9, by decide⟩))

/-- After a complete run over the two extensions, the deep copies of the swapchain's struct call two
routines that their header does not declare: that of a struct that only a restricted extension
introduces, and that of an alias that is no struct. -/
theorem surface_routines_undeclared :
    ∃ g report g' d', surfaceSchema.validate = .ok () ∧
      assemble { outputDir := "out" } (gate []) (modules {}) bindings = .ok g ∧
      (g.run surfaceSchema : OnDisk _).run ⟨[], []⟩ = ((.ok report, g'), d') ∧
      ∃ m ∈ g'.modules, boundTo m.name bindings = [.deepCopy] ∧
        ∃ p ∈ m.pieces (gate []) surfaceSchema bindings, ∃ r, p.Tells r swapchainFormat ∧
          ∃ body, Implements m.implementation ("deepcopy_" ++ swapchainFormat.name) body ∧
            ∀ type ∈ undeclaredTypes,
              type ∈ EmitterKind.deepCopy.nestedTypes r swapchainFormat ∧
                Calls body ("deepcopy_" ++ type) ∧ ¬ Declares m.header ("deepcopy_" ++ type) := by
  have hsound : Sound none (modules {}) bindings := sound_modules {}
  obtain ⟨report, g', d', hrun, hmodules⟩ := @exists_run_assembled _ _ { outputDir := "out" }
    (gate []) (modules {}) bindings surfaceSchema hsound rfl rfl ⟨[], []⟩
  have hmem : surfaceCopies ∈ g'.modules := by
    rw [hmodules]
    exact List.mem_map_of_mem (List.get_mem (modules {}) ⟨9, by decide⟩)
  have hlinked := StandardEmitter.linked (unnamed_routine [] (by decide)) text_surfaceCopies
  obtain ⟨p, hp, r, htells, hnested⟩ := exists_tells_swapchainFormat
  obtain ⟨body, himplements, hcalls⟩ :=
    hlinked.calls p hp r swapchainFormat htells rfl "deepcopy_" (by decide)
  have hundeclared : ∀ type ∈ undeclaredTypes,
      ¬ Declares surfaceCopies.text.header ("deepcopy_" ++ type) := by
    rw [text_surfaceCopies]
    exact not_declares_undeclaredTypes
  rw [← pieces_surfaceCopies] at hp
  refine ⟨_, report, g', d', rfl, assemble_eq_ok_iff.mpr ⟨hsound, rfl⟩, hrun, surfaceCopies, hmem,
    boundTo_surfaceCopies, p, hp, r, htells, body, himplements, ?_⟩
  intro type htype
  exact ⟨hnested type htype, hcalls type (hnested type htype), hundeclared type htype⟩

end Gfxstream

end VulkanWire
