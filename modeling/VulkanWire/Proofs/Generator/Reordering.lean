import Mathlib.Data.List.Forall2
import VulkanWire.Proofs.Generator.Course
import VulkanWire.Proofs.Generator.Text
import VulkanWire.Proofs.Schema.Paring
import VulkanWire.Proofs.Schema.Walking

/-!
# Schemas that are walked alike

A feature may declare its definitions in any order across categories: a walk
delivers them category by category. So two schemas whose features agree in
name, kind, required commands and, for each category, in the definitions are
the same to a generator, and neither is valid without the other. What a walk
delivers, and where it stops, depends on nothing but the listed events.

## Main definitions

* `Feature.Agrees`, `Schema.Agrees` — up to the order across categories.
* `Schema.Canonical` — the events of a schema, spelled out.

## Main results

* `Schema.Agrees.validate_iff` — schemas that agree are valid together.
* `Generator.walk_agrees` — a generator cannot tell them apart.
* `walk_is_canonical` — what a walk does, all in all.
-/

namespace VulkanWire

/-! ## Features that agree -/

/-- Features that differ at most in number and in the order of definitions across categories. -/
structure Feature.Agrees (f f' : Feature) : Prop where
  name : f.name = f'.name
  kind : f.kind = f'.kind
  require : f.require = f'.require
  elements : ∀ c : Category, f.elements.filter (fun e => e.category = c) =
    f'.elements.filter fun e => e.category = c

namespace Feature.Agrees

variable {f f' : Feature}

theorem orderedElements (h : f.Agrees f') : f.orderedElements = f'.orderedElements := by
  rw [Feature.orderedElements, Feature.orderedElements]
  simp only [h.elements]

theorem perm (h : f.Agrees f') : f.elements.Perm f'.elements := by
  have hperm := f.orderedElements_perm.symm
  rw [h.orderedElements] at hperm
  exact hperm.trans f'.orderedElements_perm

theorem nodup_iff (h : f.Agrees f') :
    (f.elements.map (·.name)).Nodup ↔ (f'.elements.map (·.name)).Nodup :=
  (h.perm.map _).nodup_iff

end Feature.Agrees

namespace Schema

/-- Schemas whose features agree, one by one. -/
def Agrees (s s' : Schema) : Prop := List.Forall₂ Feature.Agrees s.features s'.features

/-- The events of a schema, spelled out: all features in file order, each with its definitions in a
stable sort by category, and none twice. -/
structure Canonical (s : Schema) : Prop where
  shape : s.events =
    .beginFile :: s.features.flatMap (fun f =>
      .beginFeature f :: (f.orderedElements.map .element ++ [.endFeature])) ++ [.endFile]
  sorted : ∀ f ∈ s.features, f.orderedElements = f.elements.mergeSort Element.noLater
  /-- A category keeps its order of declaration. -/
  stable : ∀ f ∈ s.features, ∀ c : Category,
    f.orderedElements.filter (fun e => e.category = c) = f.elements.filter fun e => e.category = c
  /-- Every definition is delivered as often as it is declared. -/
  once : ∀ e, s.events.count (.element e) = (s.features.flatMap (·.elements)).count e

theorem canonical (s : Schema) : s.Canonical where
  shape := rfl
  sorted f _ := f.orderedElements_eq_mergeSort
  stable f _ := f.filter_orderedElements
  once := s.count_events

variable {s s' : Schema}

theorem forall_nodup_iff {fs fs' : List Feature} (h : List.Forall₂ Feature.Agrees fs fs') :
    (∀ f ∈ fs, (f.elements.map (·.name)).Nodup) ↔
      ∀ f ∈ fs', (f.elements.map (·.name)).Nodup := by
  induction h with
  | nil => rfl
  | cons hf _ ih => rw [List.forall_mem_cons, List.forall_mem_cons, hf.nodup_iff, ih]

/-- Schemas that agree are valid together. -/
theorem Agrees.validate_iff (h : s.Agrees s') : s.validate = .ok () ↔ s'.validate = .ok () := by
  have hnames : s.features.map (·.name) = s'.features.map (·.name) := by
    rw [← List.forall₂_eq_eq_eq, List.forall₂_map_left_iff, List.forall₂_map_right_iff]
    exact List.Forall₂.imp (fun _ _ hf => hf.name) h
  rw [validate_eq_ok_iff, validate_eq_ok_iff, hnames, forall_nodup_iff h]

end Schema

/-! ## Generators -/

namespace Generator

variable {ε : Type} [Emitter ε] {m : Type → Type} [Monad m] [Storage m] {f f' : Feature}
  {s s' : Schema}

/-- Of a feature that begins, a generator sees the name, the kind and the required commands. -/
theorem beginFeature_agrees (h : f.Agrees f') :
    (beginFeature f : Generator ε → _) = beginFeature f' := by
  funext g
  simp only [beginFeature, enter, h.name, h.kind, h.require]

theorem walkFeatures_agrees {fs fs' : List Feature} (h : List.Forall₂ Feature.Agrees fs fs') :
    Schema.walkFeatures (visitor : Visitor (Generating ε m) _) fs =
      Schema.walkFeatures visitor fs' := by
  induction h with
  | nil => rfl
  | cons hf _ ih =>
      have hbegin : (visitor : Visitor (Generating ε m) _).beginFeature _ = _ :=
        congrArg react (beginFeature_agrees hf)
      rw [Schema.walkFeatures, Schema.walkFeatures, hbegin, hf.orderedElements, ih]
      rfl

/-- A generator cannot tell schemas apart that agree. -/
theorem walk_agrees (h : s.Agrees s') :
    (s.walk visitor : Generating ε m GenerationReport) = s'.walk visitor := by
  rw [Schema.walk, Schema.walk, walkFeatures_agrees h]

theorem run_agrees (h : s.Agrees s') (hs : s.validate = .ok ()) (g : Generator ε) :
    (g.run s : m _) = g.run s' := by
  rw [run, run, generate, generate, hs, h.validate_iff.mp hs, walk_agrees h]

/-- What is not valid does nothing to a generator. -/
theorem exists_run_invalid (g : Generator ε) (hs : s.validate ≠ .ok ()) :
    ∃ fault, (g.run s : m _) = pure (.error (.schema fault), g) := by
  cases hvalidate : s.validate with
  | ok _ => exact absurd hvalidate hs
  | error fault => exact ⟨fault, run_invalid g hvalidate⟩

end Generator

/-- The walk through a schema: its events are canonical, every visitor is called for them in order
up to the first call that fails, and a generator cannot tell it from a schema that agrees. -/
theorem walk_is_canonical (s : Schema) :
    s.Canonical ∧
    (∀ {φ σ ω : Type} (cb : Callbacks (Acting φ σ) ω) (v : σ), ∃ made result v',
      (s.walk cb.logged.visitor).runFrom (v, []) = (result, v', made) ∧
        (s.walk cb.visitor).runFrom v = (result, v') ∧ cb.Course s.events v made result v') ∧
    ∀ s' : Schema, s.Agrees s' →
      (s.validate = .ok () ↔ s'.validate = .ok ()) ∧
      ∀ {ε : Type} [Emitter ε] {m : Type → Type} [Monad m] [Storage m],
        (s.walk Generator.visitor : Generator.Generating ε m GenerationReport) =
          s'.walk Generator.visitor ∧
        ∀ g : Generator ε,
          (s.validate = .ok () → (g.run s : m _) = g.run s') ∧
          (s.validate ≠ .ok () → ∃ fault fault',
            (g.run s : m _) = pure (.error (.schema fault), g) ∧
              (g.run s' : m _) = pure (.error (.schema fault'), g)) := by
  refine ⟨s.canonical, fun cb v => cb.exists_course s v, ?_⟩
  intro s' h
  refine ⟨h.validate_iff, ?_⟩
  intro ε _ m _ _
  refine ⟨Generator.walk_agrees h, fun g => ⟨fun hs => Generator.run_agrees h hs g, ?_⟩⟩
  intro hs
  obtain ⟨fault, hrun⟩ := Generator.exists_run_invalid (m := m) g hs
  obtain ⟨fault', hrun'⟩ := Generator.exists_run_invalid (m := m) g (mt h.validate_iff.mpr hs)
  exact ⟨fault, fault', hrun, hrun'⟩

/-! ## A shuffled schema -/

/-- A feature with a command in front of its types, and another one. -/
def shuffledSchema : Schema where
  features := [
    { name := "VK_VERSION_1_0", require := ["vkDoIt"],
      elements := [.command { name := "vkDoIt" }, .type { name := "VkFlags" },
        .struct { name := "VkExtent" }, .type { name := "VkBool" }] }]

/-- The same feature in traversal order and with a number. -/
def tidySchema : Schema where
  features := [
    { name := "VK_VERSION_1_0", number := some 1, require := ["vkDoIt"],
      elements := [.type { name := "VkFlags" }, .type { name := "VkBool" },
        .struct { name := "VkExtent" }, .command { name := "vkDoIt" }] }]

theorem shuffledSchema_agrees : shuffledSchema.Agrees tidySchema :=
  .cons ⟨rfl, rfl, rfl, fun c => by cases c <;> rfl⟩ .nil

/-- Callbacks that count the calls and fail at a struct. -/
def structless : Callbacks (Acting String Nat) Nat where
  beginFile := modify (· + 1)
  beginFeature _ := modify (· + 1)
  genType _ := modify (· + 1)
  genStruct d := throw d.name
  genGroup _ := modify (· + 1)
  genEnum _ := modify (· + 1)
  genCommand _ := modify (· + 1)
  endFeature := modify (· + 1)
  endFile := get

/-- A walk of the shuffled schema that fails at the struct, behind both types, and runs that cannot
tell the two schemas apart. -/
theorem walk_is_canonical_sample :
    (shuffledSchema.walk structless.logged.visitor).runFrom (0, []) =
        (.error "VkExtent", 4, shuffledSchema.events.take 5) ∧
      structless.Course shuffledSchema.events 0 (shuffledSchema.events.take 5) (.error "VkExtent")
        4 ∧
      ((Generator.assembled { outputDir := "out" } Generator.sampleGate Generator.sampleSpecs
          Generator.sampleBindings).run shuffledSchema : OnDisk _) =
        (Generator.assembled { outputDir := "out" } Generator.sampleGate Generator.sampleSpecs
          Generator.sampleBindings).run tidySchema := by
  obtain ⟨-, hcalls, halike⟩ := walk_is_canonical shuffledSchema
  obtain ⟨made, result, v', hlogged, -, hcourse⟩ := hcalls structless 0
  have hwalk : (shuffledSchema.walk structless.logged.visitor).runFrom (0, []) =
      (.error "VkExtent", 4, shuffledSchema.events.take 5) := rfl
  obtain ⟨rfl, rfl, rfl⟩ : result = .error "VkExtent" ∧ v' = 4 ∧
      made = shuffledSchema.events.take 5 := by
    rw [hwalk] at hlogged
    cases hlogged
    exact ⟨rfl, rfl, rfl⟩
  exact ⟨hwalk, hcourse, ((halike tidySchema shuffledSchema_agrees).2.2 _).1 rfl⟩

end VulkanWire
