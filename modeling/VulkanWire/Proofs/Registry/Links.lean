import VulkanWire.Proofs.Registry.Replay

/-!
# Alias links of a registry

A registry keeps its alias links apart from its records. A record with an alias
enters a link; a record without one leaves the links alone, whatever link its
name may have from before. So the link of a name is the alias it was given last,
and that is the alias of its last record unless the last record has none and an
earlier one has: then the name still resolves to what it once re-exported, and
its own definition is found under it by no resolution.

## Main definitions

* `Record.lastAlias?` — the alias that a name was given last.
* `Record.LosesAlias` — an alias is followed by a record without one.
* `Registry.Linked` — what the registry says of a name, definition and link.
* `Schema.Reexports` — a name leads to another through definitions of a schema.

## Main results

* `Record.lastAlias?_eq_iff` — when the last alias is the alias of the last
  record.
* `Registry.Gains.linked` — what links say after any recordings.
* `Registry.links_follow_records` — and so after any changes.
* `Registry.surface_link_outlives_alias` — a link that its definition does not
  have any more.
* `Registry.followAlias_of_reexports` — where names are unique, the registry
  follows the definitions of the schema.
-/

namespace VulkanWire

/-! ## The last alias -/

namespace Record

/-- The alias that a name was given last, whatever is recorded under it afterwards. -/
def lastAlias? (rs : List Record) (name : String) : Option String :=
  ((rs.filter fun r => r.definition.name = name).filterMap (·.definition.aliasOf)).getLast?

/-- The last record of a name carries no alias, but an earlier one does. -/
structure LosesAlias (rs : List Record) (name : String) : Prop where
  bare : (last? rs name).bind (·.definition.aliasOf) = none
  earlier : ∃ r ∈ rs, r.definition.name = name ∧ r.definition.aliasOf ≠ none

variable {rs : List Record} {name target : String}

theorem last?_append_singleton (rs : List Record) (r : Record) (name : String) :
    last? (rs ++ [r]) name = if r.definition.name = name then some r else last? rs name := by
  rw [last?, last?, List.filter_append]
  by_cases h : r.definition.name = name <;> simp [h]

/-- A record with an alias gives it to its name, and any other leaves the name the one it has. -/
theorem lastAlias?_append_singleton (rs : List Record) (r : Record) (name : String) :
    lastAlias? (rs ++ [r]) name =
      if r.definition.name = name then r.definition.aliasOf.or (lastAlias? rs name)
      else lastAlias? rs name := by
  rw [lastAlias?, lastAlias?, List.filter_append]
  by_cases h : r.definition.name = name
  · cases halias : r.definition.aliasOf <;> simp [h, halias]
  · simp [h]

/-- The alias of the last record is the last alias. -/
theorem lastAlias?_of_last? (h : (last? rs name).bind (·.definition.aliasOf) = some target) :
    lastAlias? rs name = some target := by
  induction rs using List.reverseRecOn with
  | nil => cases h
  | append_singleton rs r ih =>
      rw [last?_append_singleton] at h
      rw [lastAlias?_append_singleton]
      by_cases hname : r.definition.name = name
      · rw [if_pos hname] at h ⊢
        rw [show r.definition.aliasOf = some target from h]
        rfl
      · rw [if_neg hname] at h ⊢
        exact ih h

theorem lastAlias?_eq_none_iff :
    lastAlias? rs name = none ↔
      ∀ r ∈ rs, r.definition.name = name → r.definition.aliasOf = none := by
  simp [lastAlias?]

/-- The last alias is the alias of the last record, unless that one carries none and an earlier one
does. -/
theorem lastAlias?_eq_iff :
    lastAlias? rs name = (last? rs name).bind (·.definition.aliasOf) ↔ ¬ LosesAlias rs name := by
  cases hlast : (last? rs name).bind (·.definition.aliasOf) with
  | some target =>
      have hkeeps : ¬ LosesAlias rs name := by
        intro hloses
        rw [hloses.bare] at hlast
        cases hlast
      exact iff_of_true (lastAlias?_of_last? hlast) hkeeps
  | none =>
      rw [lastAlias?_eq_none_iff]
      constructor
      · rintro hbare ⟨-, r, hr, hname, halias⟩
        exact halias (hbare r hr hname)
      · intro hkeeps r hr hname
        by_contra halias
        exact hkeeps ⟨hlast, r, hr, hname, halias⟩

end Record

/-! ## Links and definitions -/

namespace Registry

/-- What a registry says of a name after recordings, by its records and by its links. -/
structure Linked (rs : List Record) (r : Registry) (name : String) : Prop where
  /-- The definition is the one recorded last. -/
  definition : r.definition? name = (Record.last? rs name).map (·.definition)
  /-- The link leads to the alias given last. -/
  link : r.aliases.find? name = Record.lastAlias? rs name
  /-- An alias of the definition is linked. -/
  follows : ∀ e target, r.definition? name = some e → e.aliasOf = some target →
    r.aliases.find? name = some target
  /-- The link is that of the definition as long as the name has not lost an alias. -/
  agree : r.aliases.find? name = (r.definition? name).bind (·.aliasOf) ↔
    ¬ Record.LosesAlias rs name
  /-- A definition that never replaced an alias stands for itself. -/
  itself : ∀ e, r.definition? name = some e → e.aliasOf = none → ¬ Record.LosesAlias rs name →
    r.resolveAlias name = name ∧ (∀ d, e = .struct d → r.struct? name = some d) ∧
      ∀ d, e = .command d → r.command? name = some d

variable {r : Registry} {rs : List Record} {kinds : List (String × FeatureKind)}

/-- The entries of the aliases of a name are its aliases. -/
theorem getLast?_aliasEntries (rs : List Record) (name : String) :
    ((rs.filterMap Record.aliasEntry?).filter (·.1 = name)).getLast?.map (·.2) =
      Record.lastAlias? rs name := by
  induction rs using List.reverseRecOn with
  | nil => rfl
  | append_singleton rs r ih =>
      rw [Record.lastAlias?_append_singleton, ← ih, List.filterMap_append, List.filter_append]
      by_cases hname : r.definition.name = name <;> cases halias : r.definition.aliasOf <;>
        simp [Record.aliasEntry?, hname, halias]

theorem Gains.link (h : Gains rs kinds {} r) (name : String) :
    r.aliases.find? name = Record.lastAlias? rs name := by
  rw [h.aliases, ← getLast?_aliasEntries]
  exact Ledger.find?_insertAll _ name

theorem Gains.linked (h : Gains rs kinds {} r) (name : String) : Linked rs r name := by
  have hdefinition : r.definition? name = (Record.last? rs name).map (·.definition) := by
    rw [definition?, h.find?]
  have halias : (r.definition? name).bind (·.aliasOf) =
      (Record.last? rs name).bind (·.definition.aliasOf) := by
    rw [hdefinition, Option.bind_map]
    rfl
  have hagree : r.aliases.find? name = (r.definition? name).bind (·.aliasOf) ↔
      ¬ Record.LosesAlias rs name := by
    rw [h.link, halias]
    exact Record.lastAlias?_eq_iff
  refine ⟨hdefinition, h.link name, ?_, hagree, ?_⟩
  · intro e target he htarget
    rw [h.link]
    apply Record.lastAlias?_of_last?
    rw [← halias, he]
    exact htarget
  · intro e he hbare hkeeps
    have hunlinked : r.aliases.find? name = none := by
      rw [hagree.mpr hkeeps, he]
      exact hbare
    have hresolved : r.resolved? name = some e := by
      rw [resolved?, resolveAlias_of_unlinked hunlinked, he]
    refine ⟨resolveAlias_of_unlinked hunlinked, ?_, ?_⟩
    · rintro d rfl
      rw [struct?, hresolved]
    · rintro d rfl
      rw [command?, hresolved]

/-- After any changes of an empty registry, the link of a name leads to the alias that the name was
given last. That is the alias of its definition, unless the name has lost one. -/
theorem links_follow_records (ms : List Mutation) (name : String) :
    Linked (Mutation.recordings none ms) (replay ms) name :=
  (gains_replay ms).linked name

/-- A struct is first an alias of another one and then, in a later feature, defined itself. -/
def surfaceChanges : List Mutation :=
  [.beginFeature "VK_KHR_surface" .instanceExtension,
    .record (.struct { name := "VkSurfaceFormatKHR", aliasOf := some "VkFormatPair" }), .endFeature,
    .beginFeature "VK_KHR_swapchain" .deviceExtension,
    .record (.struct { name := "VkSurfaceFormatKHR" }), .endFeature, .finish]

/-- The definition carries no alias, but the name keeps its link, and no struct is found by it. -/
theorem surface_link_outlives_alias :
    (replay surfaceChanges).definition? "VkSurfaceFormatKHR" =
        some (.struct { name := "VkSurfaceFormatKHR" }) ∧
      (replay surfaceChanges).aliases.find? "VkSurfaceFormatKHR" = some "VkFormatPair" ∧
      (replay surfaceChanges).resolveAlias "VkSurfaceFormatKHR" = "VkFormatPair" ∧
      (replay surfaceChanges).struct? "VkSurfaceFormatKHR" = none := by
  decide

end Registry

/-! ## Re-exports within a schema -/

/-- Along so many alias links of definitions in supported features, a name leads to another. -/
inductive Schema.Reexports (s : Schema) (gate : FeatureGate) : Nat → String → String → Prop
  | itself (name : String) : Reexports s gate 0 name name
  | link {f : Feature} {e : Element} {target final : String} {n : Nat} (hf : f ∈ s.features)
      (hs : gate.isSupported f.name = true) (he : e ∈ f.elements)
      (halias : e.aliasOf = some target) (hrest : Reexports s gate n target final) :
      Reexports s gate (n + 1) e.name final

namespace Registry

section Reexports

variable {s : Schema} {gate : FeatureGate} {f : Feature} {e : Element} {name final : String} {n : Nat}

/-- What is recorded under a name that one definition alone has is that definition. -/
theorem definition_of_mem_recorded (hunique : ((s.features.flatMap (·.elements)).map (·.name)).Nodup)
    (hf : f ∈ s.features) (he : e ∈ f.elements) {record : Record}
    (hrecord : record ∈ s.recorded gate) (hname : record.definition.name = e.name) :
    record.definition = e := by
  obtain ⟨f', hf', hmem⟩ := List.mem_flatMap.mp hrecord
  obtain ⟨e', he', rfl⟩ := List.mem_map.mp hmem
  have hhere : e ∈ s.features.flatMap (·.elements) := List.mem_flatMap.mpr ⟨f, hf, he⟩
  have hthere : e' ∈ s.features.flatMap (·.elements) :=
    List.mem_flatMap.mpr ⟨f', hf', Feature.mem_orderedElements.mp (List.mem_filter.mp he').1⟩
  exact List.inj_on_of_nodup_map hunique hthere hhere hname

/-- In a supported feature, such a name is linked as its definition says. -/
theorem link_finalRegistry (hunique : ((s.features.flatMap (·.elements)).map (·.name)).Nodup)
    (hf : f ∈ s.features) (hs : gate.isSupported f.name = true) (he : e ∈ f.elements) :
    (s.finalRegistry gate).aliases.find? e.name = e.aliasOf := by
  rw [gains_finalRegistry.link]
  cases halias : e.aliasOf with
  | none =>
      rw [Record.lastAlias?_eq_none_iff]
      intro record hrecord hname
      rw [definition_of_mem_recorded hunique hf he hrecord hname, halias]
  | some target =>
      have hmem : ⟨e, some f.name⟩ ∈ (s.recorded gate).filter fun r => r.definition.name = e.name := by
        refine List.mem_filter.mpr ⟨List.mem_flatMap.mpr ⟨f, hf, ?_⟩, decide_eq_true rfl⟩
        rw [recorded_of_isSupported hs]
        exact List.mem_map_of_mem (Feature.mem_orderedElements.mpr he)
      apply Record.lastAlias?_of_last?
      cases hlast : Record.last? (s.recorded gate) e.name with
      | none =>
          rw [Record.last?, List.getLast?_eq_none_iff] at hlast
          rw [hlast] at hmem
          cases hmem
      | some record =>
          obtain ⟨hrecord, hname⟩ := List.mem_filter.mp (List.mem_of_getLast? hlast)
          rw [Option.bind_some,
            definition_of_mem_recorded hunique hf he hrecord (of_decide_eq_true hname), halias]

/-- As many links as lead to a definition without an alias, and more, lead there. -/
theorem followAlias_of_reexports
    (hunique : ((s.features.flatMap (·.elements)).map (·.name)).Nodup)
    (hfinal : (s.finalRegistry gate).aliases.find? final = none)
    (h : s.Reexports gate n name final) {bound : Nat} (hn : n ≤ bound) :
    (s.finalRegistry gate).followAlias bound name = final := by
  induction h generalizing bound with
  | itself name => exact followAlias_of_unlinked hfinal bound
  | @link f e target final n hf hs he halias hrest ih =>
      cases bound with
      | zero => omega
      | succ bound =>
          rw [followAlias, link_finalRegistry hunique hf hs he, halias]
          exact ih hfinal (Nat.le_of_succ_le_succ hn)

end Reexports

end Registry

end VulkanWire
