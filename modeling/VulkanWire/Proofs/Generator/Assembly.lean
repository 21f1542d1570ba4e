import VulkanWire.Proofs.Generator.Traversal
import VulkanWire.Schema.Validity

/-!
# What assembly puts together

Assembly succeeds exactly if module names are distinct, every emitter is bound
to a declared module and the only module to keep is declared. What it puts
together is then a generator that has heard nothing: the modules as declared,
every emitter with the place of its module.

## Main results

* `assemble_eq_ok_iff` — when assembly succeeds, and with what.
* `emittersAt_placed` — the emitters at a module's place are those bound to
  its name, in binding order.
-/

namespace VulkanWire.Generator

variable {ε : Type}

/-! ## Finding modules -/

/-- The emitters bound to the module with a name, in binding order. -/
def boundTo (name : String) (bindings : List (Binding ε)) : List ε :=
  (bindings.filter (·.module = name)).map (·.emitter)

/-- Emitters with the places of their modules. -/
def placed (names : List String) (bindings : List (Binding ε)) : List (BoundEmitter ε) :=
  bindings.map fun b => ⟨b.emitter, names.idxOf b.module⟩

theorem bindAll_eq_ok_iff [Emitter ε] {names : List String} {bindings : List (Binding ε)}
    {bound : List (BoundEmitter ε)} :
    bindAll names bindings = .ok bound ↔
      (∀ b ∈ bindings, b.module ∈ names) ∧ bound = placed names bindings := by
  induction bindings generalizing bound with
  | nil =>
      constructor
      · intro h
        injection h with h
        exact ⟨by simp, h.symm⟩
      · rintro ⟨-, rfl⟩
        rfl
  | cons b rest ih =>
      by_cases hb : b.module ∈ names
      · cases hrest : bindAll names rest with
        | error fault =>
            have hnone : ¬ ∀ b ∈ rest, b.module ∈ names := by
              intro hall
              have hok : bindAll names rest = .ok (placed names rest) := ih.mpr ⟨hall, rfl⟩
              rw [hrest] at hok
              cases hok
            have herror : bindAll names (b :: rest) = .error fault := by
              rw [bindAll, if_pos hb, hrest]
              rfl
            rw [herror]
            constructor
            · intro h
              cases h
            · rintro ⟨hall, -⟩
              exact absurd (fun b hr => hall b (List.mem_cons_of_mem _ hr)) hnone
        | ok tail =>
            obtain ⟨hall, rfl⟩ := ih.mp hrest
            have hok : bindAll names (b :: rest) = .ok (placed names (b :: rest)) := by
              rw [bindAll, if_pos hb, hrest]
              rfl
            rw [hok]
            constructor
            · intro h
              injection h with h
              exact ⟨List.forall_mem_cons.mpr ⟨hb, hall⟩, h.symm⟩
            · rintro ⟨-, rfl⟩
              rfl
      · rw [bindAll, if_neg hb]
        constructor
        · intro h
          cases h
        · rintro ⟨hall, -⟩
          exact absurd (hall b List.mem_cons_self) hb

/-- With distinct names, the emitters at a place are those bound to the name that stands there. -/
theorem emittersAt_placed {names : List String} (hnames : names.Nodup) {place : Nat} {name : String}
    (hplace : names[place]? = some name) {bindings : List (Binding ε)}
    (hknown : ∀ b ∈ bindings, b.module ∈ names) :
    emittersAt place (placed names bindings) = boundTo name bindings := by
  obtain ⟨hlt, rfl⟩ := List.getElem?_eq_some_iff.mp hplace
  -- With distinct names, the first place of a name is its only one.
  have hsame : ∀ b ∈ bindings, (names.idxOf b.module = place ↔ b.module = names[place]) := by
    intro b hb
    have hlisted := List.idxOf_lt_length_of_mem (hknown b hb)
    have hfound : names[names.idxOf b.module] = b.module := List.getElem_idxOf hlisted
    constructor
    · rintro rfl
      exact hfound.symm
    · intro h
      rw [h]
      exact hnames.idxOf_getElem place hlt
  rw [emittersAt, placed, boundTo, List.filter_map, List.map_map]
  have hfilter : bindings.filter
      ((fun b : BoundEmitter ε => decide (b.place = place)) ∘
        fun b => ⟨b.emitter, names.idxOf b.module⟩) =
      bindings.filter (·.module = names[place]) := by
    apply List.filter_congr
    intro b hb
    simp only [Function.comp_apply, hsame b hb]
  rw [hfilter]
  rfl

/-! ## The assembled generator -/

/-- The generator of declarations that pass all checks. -/
def assembled (o : GeneratorOptions) (gate : FeatureGate) (specs : List ModuleSpec)
    (bindings : List (Binding ε)) : Generator ε where
  options := o
  gate := gate
  modules := suppress o.suppressExcept (specs.map (declare o))
  bound := placed (specs.map (·.name)) bindings

/-- Declarations that pass all checks. -/
structure Sound (keep : Option String) (specs : List ModuleSpec) (bindings : List (Binding ε)) :
    Prop where
  distinct : (specs.map (·.name)).Nodup
  known : ∀ b ∈ bindings, b.module ∈ specs.map (·.name)
  kept : ∀ name, keep = some name → name ∈ specs.map (·.name)

variable [Emitter ε] {o : GeneratorOptions} {gate : FeatureGate} {specs : List ModuleSpec}
  {bindings : List (Binding ε)}

/-- The checks of assembly, one after the other. -/
theorem assemble_eq :
    assemble o gate specs bindings =
      match firstRepeated? [] (specs.map (·.name)), bindAll (specs.map (·.name)) bindings,
          o.suppressExcept with
      | some name, _, _ => .error (.duplicateModule name)
      | none, .error fault, _ => .error fault
      | none, .ok bound, none => .ok { assembled o gate specs bindings with bound }
      | none, .ok bound, some keep =>
        if keep ∈ specs.map (·.name) then .ok { assembled o gate specs bindings with bound }
        else .error (.unknownSuppressedModule keep (specs.map (·.name))) := by
  simp only [assemble]
  cases firstRepeated? [] (specs.map (·.name)) with
  | some name => rfl
  | none =>
      cases bindAll (specs.map (·.name)) bindings with
      | error fault => rfl
      | ok bound =>
          simp only [assembled]
          cases o.suppressExcept with
          | none => rfl
          | some keep =>
              by_cases hkeep : keep ∈ specs.map (·.name)
              · simp only [hkeep, if_true]
                rfl
              · simp only [hkeep, if_false]
                rfl

/-- Assembly succeeds exactly for sound declarations. -/
theorem assemble_eq_ok_iff {g : Generator ε} :
    assemble o gate specs bindings = .ok g ↔
      Sound o.suppressExcept specs bindings ∧ g = assembled o gate specs bindings := by
  have hdistinct := firstRepeated?_eq_none_iff [] (specs.map (·.name))
  have hknown := @bindAll_eq_ok_iff ε _ (specs.map (·.name)) bindings
  rw [assemble_eq]
  constructor
  · intro h
    split at h
    · cases h
    · cases h
    · rename_i bound hnone hbound hkeep
      obtain ⟨hall, rfl⟩ := hknown.mp hbound
      injection h with h
      refine ⟨⟨(hdistinct.mp hnone).1, hall, ?_⟩, h.symm⟩
      intro name hname
      rw [hkeep] at hname
      cases hname
    · rename_i bound keep hnone hbound hkeep
      obtain ⟨hall, rfl⟩ := hknown.mp hbound
      by_cases hmem : keep ∈ specs.map (·.name)
      · rw [if_pos hmem] at h
        injection h with h
        refine ⟨⟨(hdistinct.mp hnone).1, hall, ?_⟩, h.symm⟩
        intro name hname
        rw [hkeep] at hname
        injection hname with hname
        exact hname ▸ hmem
      · rw [if_neg hmem] at h
        cases h
  · rintro ⟨hs, rfl⟩
    rw [hdistinct.mpr ⟨hs.distinct, by simp⟩, hknown.mpr ⟨hs.known, rfl⟩]
    cases hkeep : o.suppressExcept with
    | none => rfl
    | some keep =>
        have hmem := hs.kept keep hkeep
        simp only [hmem, if_true]
        rfl

end VulkanWire.Generator
