import VulkanWire.Proofs.Generator.Passage
import VulkanWire.Schema.Validity

/-!
# Pared schemas

A gate lets nothing of an unsupported feature through but the types on its
exception list. Paring a schema keeps just those, drops what is left empty, and
may change what kind of feature they stand in. A valid schema stays valid, and
what is left of a feature leaves the same in the registry.

## Main definitions

* `FeatureGate.keeps` — what is kept of an unsupported feature.
* `Schema.pared` — a schema without what a gate keeps out.

## Main results

* `Schema.validate_eq_ok_iff` — what valid schemas are.
* `Schema.validate_pared` — paring keeps a schema valid.
* `Registry.through_pared`, `Registry.through_dropped` — a pared feature records
  what the whole one does.
-/

namespace VulkanWire

/-! ## Valid schemas -/

namespace Schema

/-- Reading finds nothing exactly if no name repeats among the features or inside one of them. -/
theorem offence?_go_eq_none_iff (seen : List String) (fs : List Feature) :
    offence?.go seen fs = none ↔
      firstRepeated? seen (fs.map (·.name)) = none ∧ ∀ f ∈ fs, f.repeatedDefinition? = none := by
  induction fs generalizing seen with
  | nil => simp [offence?.go, firstRepeated?]
  | cons f fs ih =>
      rw [offence?.go, List.map_cons, firstRepeated?]
      by_cases hseen : f.name ∈ seen
      · simp [hseen]
      · cases hrepeated : f.repeatedDefinition? with
        | some name => simp [hseen, hrepeated]
        | none => simp [hseen, hrepeated, ih]

/-- Valid are the schemas without a feature name or, inside a feature, a definition name that
repeats. -/
theorem validate_eq_ok_iff (s : Schema) :
    s.validate = .ok () ↔
      (s.features.map (·.name)).Nodup ∧ ∀ f ∈ s.features, (f.elements.map (·.name)).Nodup := by
  have hoffence : s.validate = .ok () ↔ s.offence? = none := by
    unfold validate
    cases s.offence? <;> simp
  rw [hoffence, offence?, offence?_go_eq_none_iff]
  simp [firstRepeated?_eq_none_iff, Feature.repeatedDefinition?]

end Schema

/-! ## What a gate keeps of an unsupported feature -/

/-- Whether a definition is kept although its feature generates nothing. -/
def FeatureGate.keeps (gate : FeatureGate) : Element → Bool
  | .type d => gate.isException d.name
  | _ => false

namespace Feature

/-- Choosing among definitions does not change the order of those chosen. -/
theorem orderedElements_filter (f : Feature) (test : Element → Bool) :
    { f with elements := f.elements.filter test }.orderedElements =
      f.orderedElements.filter test := by
  rw [orderedElements, orderedElements, List.filter_flatMap]
  congr 1
  funext c
  rw [List.filter_filter, List.filter_filter]
  congr 1
  funext e
  exact Bool.and_comm _ _

/-- The traversal order has the definitions of one feature and no others. -/
theorem orderedElements_congr {f f' : Feature} (h : f.elements = f'.elements) :
    f.orderedElements = f'.orderedElements := by
  rw [orderedElements, orderedElements, h]

end Feature

namespace Registry

variable {gate : FeatureGate} {r : Registry}

theorem recordException_eq (feature : String) (e : Element) :
    r.recordException gate feature e =
      if gate.keeps e then r.recordUnder (some feature) e else r := by
  cases e <;> rfl

/-- Outside a supported feature, the definitions that are kept are recorded under its name. -/
theorem foldl_recordException (feature : String) (es : List Element) :
    es.foldl (recordException gate feature) r =
      (es.filter gate.keeps).foldl (fun r e => r.recordUnder (some feature) e) r := by
  have hstep : recordException gate feature =
      fun r e => if gate.keeps e then r.recordUnder (some feature) e else r := by
    funext r e
    exact recordException_eq feature e
  rw [List.foldl_filter, hstep]

end Registry

/-! ## Paring -/

namespace Schema

/-- What is left of a feature: all of a supported one, and of any other the definitions that are
kept, if there are any, in a feature that may be of another kind. -/
def paredFeature? (gate : FeatureGate) (relabel : Feature → FeatureKind × Option UInt32)
    (f : Feature) : Option Feature :=
  if gate.isSupported f.name then some f
  else match f.elements.filter gate.keeps with
    | [] => none
    | kept => some {
        name := f.name
        kind := (relabel f).1
        number := (relabel f).2
        require := []
        elements := kept }

/-- The schema without what a gate keeps out; unsupported features are relabelled at will. -/
def pared (s : Schema) (gate : FeatureGate) (relabel : Feature → FeatureKind × Option UInt32) :
    Schema where
  features := s.features.filterMap (paredFeature? gate relabel)

variable {gate : FeatureGate} {relabel : Feature → FeatureKind × Option UInt32} {f f' : Feature}

theorem paredFeature?_supported (h : gate.isSupported f.name = true) :
    paredFeature? gate relabel f = some f := by
  rw [paredFeature?, if_pos h]

/-- An unsupported feature that is dropped has nothing to keep. -/
theorem paredFeature?_eq_none (h : gate.isSupported f.name = false) :
    paredFeature? gate relabel f = none ↔ f.elements.filter gate.keeps = [] := by
  rw [paredFeature?, if_neg (by simp [h])]
  cases f.elements.filter gate.keeps <;> simp

/-- What is left of an unsupported feature has its name and the definitions that are kept. -/
theorem paredFeature?_unsupported (h : gate.isSupported f.name = false)
    (hf' : paredFeature? gate relabel f = some f') :
    f'.name = f.name ∧ f'.elements = f.elements.filter gate.keeps := by
  rw [paredFeature?, if_neg (by simp [h])] at hf'
  split at hf'
  · cases hf'
  · injection hf' with hf'
    rw [← hf']
    exact ⟨rfl, rfl⟩

/-- A feature keeps its name, and no definition is added to it. -/
theorem paredFeature?_eq_some (hf' : paredFeature? gate relabel f = some f') :
    f'.name = f.name ∧ f'.elements.Sublist f.elements := by
  cases h : gate.isSupported f.name with
  | true =>
      rw [paredFeature?_supported h] at hf'
      injection hf' with hf'
      rw [← hf']
      exact ⟨rfl, List.Sublist.refl _⟩
  | false =>
      obtain ⟨hname, helements⟩ := paredFeature?_unsupported h hf'
      rw [helements]
      exact ⟨hname, List.filter_sublist⟩

theorem names_filterMap_paredFeature? (fs : List Feature) :
    ((fs.filterMap (paredFeature? gate relabel)).map (·.name)).Sublist (fs.map (·.name)) := by
  induction fs with
  | nil => exact List.Sublist.refl _
  | cons f fs ih =>
      cases hf : paredFeature? gate relabel f with
      | none =>
          rw [List.filterMap_cons_none hf]
          exact ih.cons _
      | some f' =>
          rw [List.filterMap_cons_some hf, List.map_cons, (paredFeature?_eq_some hf).1]
          exact ih.cons_cons _

/-- A valid schema stays valid when it is pared. -/
theorem validate_pared {s : Schema} (hs : s.validate = .ok ()) :
    (s.pared gate relabel).validate = .ok () := by
  obtain ⟨hfeatures, helements⟩ := s.validate_eq_ok_iff.mp hs
  rw [validate_eq_ok_iff]
  refine ⟨(names_filterMap_paredFeature? s.features).nodup hfeatures, ?_⟩
  intro f' hf'
  obtain ⟨f, hf, hpared⟩ := List.mem_filterMap.mp hf'
  exact ((paredFeature?_eq_some hpared).2.map _).nodup (helements f hf)

end Schema

/-! ## What a pared feature leaves behind -/

namespace Registry

variable {gate : FeatureGate} {relabel : Feature → FeatureKind × Option UInt32} {f f' : Feature}
  {r : Registry}

/-- What an unsupported feature records depends on its name and on what is kept of it. -/
theorem through_unsupported (h : gate.isSupported f.name = false) :
    r.through gate f =
      (f.orderedElements.filter gate.keeps).foldl (fun r e => r.recordUnder (some f.name) e) r := by
  rw [through, if_neg (by simp [h]), foldl_recordException]

/-- What is left of an unsupported feature records what the whole one records. -/
theorem through_pared (h : gate.isSupported f.name = false)
    (hf' : Schema.paredFeature? gate relabel f = some f') :
    r.through gate f' = r.through gate f := by
  obtain ⟨hname, helements⟩ := Schema.paredFeature?_unsupported h hf'
  have hordered : f'.orderedElements = f.orderedElements.filter gate.keeps :=
    (Feature.orderedElements_congr helements).trans (f.orderedElements_filter gate.keeps)
  rw [through_unsupported h, through_unsupported (by rwa [hname]), hname, hordered,
    List.filter_filter]
  simp only [Bool.and_self]

/-- A feature that is dropped records nothing. -/
theorem through_dropped (h : gate.isSupported f.name = false)
    (hf : Schema.paredFeature? gate relabel f = none) : r.through gate f = r := by
  have hkept := (Schema.paredFeature?_eq_none h).mp hf
  have hordered := f.orderedElements_filter gate.keeps
  rw [hkept] at hordered
  rw [through_unsupported h, ← hordered]
  rfl

end Registry

end VulkanWire
