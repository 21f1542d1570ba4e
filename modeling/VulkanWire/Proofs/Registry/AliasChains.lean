import Mathlib.Data.ENat.Lattice
import Mathlib.Data.Set.Finite.List
import VulkanWire.Registry

/-!
# Where alias links lead

Each name has at most one alias link, so from every name there is one chain of
links. It comes to a name without a link, or, in a malformed schema, it comes
round a cycle and goes on for ever; there is nothing else that it can do, since
a registry has only so many links. A resolution follows the chain for eight
links. So all names on a chain of at most eight links stand for the same
definition, and on a longer chain a resolution stops on the way.

## Main definitions

* `Registry.ahead?` — the name so many links ahead.
* `Registry.linkCount` — the number of links until a name without one.
* `Registry.AliasResolution` — what the resolution of a name comes to.

## Main results

* `Registry.ahead?_add` — a chain goes on from each of its names.
* `Registry.linkCount_eq_iff`, `Registry.linkCount_eq_top_iff` — chains that
  end and chains that run into a cycle.
* `Registry.alias_resolution_exact` — which name every name is resolved to.
-/

namespace VulkanWire

namespace Registry

variable {r : Registry} {i j n enter period : Nat} {name other entry final : String}

/-! ## Chains of links -/

/-- The name so many links ahead of a name, if the chain is that long. -/
def ahead? (r : Registry) : Nat → String → Option String
  | 0, name => some name
  | i + 1, name => (r.aliases.find? name).bind (r.ahead? i)

theorem ahead?_add (r : Registry) (i j : Nat) (name : String) :
    r.ahead? (i + j) name = (r.ahead? i name).bind (r.ahead? j) := by
  induction i generalizing name with
  | zero =>
      rw [Nat.zero_add]
      rfl
  | succ i ih =>
      rw [Nat.add_right_comm, ahead?, ahead?, Option.bind_assoc]
      exact congrArg _ (funext ih)

/-- A chain goes on from each of its names. -/
theorem ahead?_add_of_eq (h : r.ahead? i name = some other) (j : Nat) :
    r.ahead? (i + j) name = r.ahead? j other := by
  rw [ahead?_add, h, Option.bind_some]

/-- After so many links, a chain has come to a name without one. -/
def EndsAfter (r : Registry) (i : Nat) (name : String) : Prop :=
  ∃ final, r.ahead? i name = some final ∧ r.aliases.find? final = none

/-- Behind its end a chain has no names. -/
theorem EndsAfter.ahead?_eq_none (h : r.EndsAfter i name) (hlt : i < j) :
    r.ahead? j name = none := by
  obtain ⟨final, hfinal, hunlinked⟩ := h
  obtain ⟨k, rfl⟩ := Nat.exists_eq_add_of_lt hlt
  rw [Nat.add_assoc, ahead?_add_of_eq hfinal, ahead?, hunlinked, Option.bind_none]

theorem EndsAfter.le_of_eq_some (h : r.EndsAfter i name) (hj : r.ahead? j name = some other) :
    j ≤ i := by
  by_contra hlt
  rw [h.ahead?_eq_none (Nat.lt_of_not_le hlt)] at hj
  cases hj

theorem EndsAfter.unique (h : r.EndsAfter i name) (h' : r.EndsAfter j name) : i = j := by
  obtain ⟨final, hfinal, -⟩ := id h
  obtain ⟨final', hfinal', -⟩ := id h'
  exact Nat.le_antisymm (h'.le_of_eq_some hfinal) (h.le_of_eq_some hfinal')

/-- A chain that has not ended before a place has a name there. -/
theorem exists_ahead? (h : ∀ i < n, ¬ r.EndsAfter i name) :
    ∃ other, r.ahead? n name = some other := by
  induction n with
  | zero => exact ⟨name, rfl⟩
  | succ n ih =>
      obtain ⟨other, hother⟩ := ih fun i hi => h i (Nat.lt_succ_of_lt hi)
      cases hlink : r.aliases.find? other with
      | none => exact absurd ⟨other, hother, hlink⟩ (h n (Nat.lt_succ_self n))
      | some target =>
          refine ⟨target, ?_⟩
          rw [ahead?_add_of_eq hother, ahead?, hlink]
          rfl

/-! ## Cycles -/

theorem ahead?_mul_of_cycle (hcycle : r.ahead? period entry = some entry) (k : Nat) :
    r.ahead? (period * k) entry = some entry := by
  induction k with
  | zero => rfl
  | succ k ih => rw [Nat.mul_succ, ahead?_add_of_eq ih, hcycle]

/-- On a cycle, the names come again with its period. -/
theorem ahead?_mod_of_cycle (hcycle : r.ahead? period entry = some entry) (i : Nat) :
    r.ahead? (i % period) entry = r.ahead? i entry := by
  conv_rhs => rw [← Nat.div_add_mod i period, ahead?_add_of_eq (ahead?_mul_of_cycle hcycle _)]

/-- A chain that runs into a cycle does not end. -/
theorem not_endsAfter_of_cycle (hperiod : 0 < period) (henter : r.ahead? enter name = some entry)
    (hcycle : r.ahead? period entry = some entry) (i : Nat) : ¬ r.EndsAfter i name := by
  intro h
  have hround : r.ahead? (enter + period * (i + 1)) name = some entry := by
    rw [ahead?_add_of_eq henter, ahead?_mul_of_cycle hcycle]
  have hle := h.le_of_eq_some hround
  have hfar : i + 1 ≤ period * (i + 1) := Nat.le_mul_of_pos_left _ hperiod
  omega

/-- Some name comes twice on a chain that does not end, for there are only so many links. -/
theorem exists_cycle (h : ∀ i, ¬ r.EndsAfter i name) :
    ∃ enter period entry, 0 < period ∧ r.ahead? enter name = some entry ∧
      r.ahead? period entry = some entry := by
  have hlinked : ∀ i, ∃ other ∈ r.aliases.names, r.ahead? i name = some other := by
    intro i
    obtain ⟨other, hother⟩ := exists_ahead? (n := i) fun j _ => h j
    refine ⟨other, ?_, hother⟩
    rw [← Ledger.find?_isSome_iff, Option.isSome_iff_ne_none]
    exact fun hunlinked => h i ⟨other, hother, hunlinked⟩
  choose names hmem hnames using hlinked
  -- all its names have a link, and there are only finitely many of those
  obtain ⟨enter, again, hlt, hsame⟩ :=
    Set.Finite.exists_lt_map_eq_of_forall_mem hmem (List.finite_toSet r.aliases.names)
  obtain ⟨k, rfl⟩ := Nat.exists_eq_add_of_lt hlt
  refine ⟨enter, k + 1, names enter, Nat.succ_pos k, hnames enter, ?_⟩
  rw [← ahead?_add_of_eq (hnames enter), hsame]
  exact hnames _

/-! ## Counting links -/

/-- The number of links until a name without one, infinite where there is no such name. -/
noncomputable def linkCount (r : Registry) (name : String) : ℕ∞ :=
  ⨅ (i : ℕ) (_ : r.EndsAfter i name), (i : ℕ∞)

theorem EndsAfter.linkCount_eq (h : r.EndsAfter i name) : r.linkCount name = i := by
  apply le_antisymm
  · exact iInf₂_le i h
  · refine le_iInf₂ fun j hj => ?_
    rw [h.unique hj]

theorem linkCount_eq_top_iff : r.linkCount name = ⊤ ↔ ∀ i, ¬ r.EndsAfter i name := by
  simp [linkCount]

theorem linkCount_eq_iff : r.linkCount name = i ↔ r.EndsAfter i name := by
  refine ⟨fun h => ?_, EndsAfter.linkCount_eq⟩
  by_contra hnot
  have htop : r.linkCount name = ⊤ := by
    rw [linkCount_eq_top_iff]
    intro j hj
    rw [hj.linkCount_eq, Nat.cast_inj] at h
    exact hnot (h ▸ hj)
  rw [htop] at h
  exact ENat.top_ne_natCast i h

/-! ## Resolving a name -/

/-- A resolution stops at the end of the chain, or where it has followed as many links as it may. -/
theorem followAlias_of_ahead? (h : r.ahead? i name = some other) (hi : i ≤ n)
    (hstop : i = n ∨ r.aliases.find? other = none) : r.followAlias n name = other := by
  induction i generalizing n name with
  | zero =>
      obtain rfl : name = other := Option.some.inj h
      rcases hstop with rfl | hunlinked
      · rfl
      · exact followAlias_of_unlinked hunlinked n
  | succ i ih =>
      obtain ⟨target, hlink, hrest⟩ := Option.bind_eq_some_iff.mp h
      obtain ⟨n, rfl⟩ := Nat.exists_eq_add_one_of_ne_zero (Nat.ne_zero_of_lt hi)
      rw [followAlias, hlink]
      exact ih hrest (Nat.le_of_succ_le_succ hi) (hstop.imp_left Nat.succ.inj)

/-- All names on a chain of at most eight links are resolved to the end of it. -/
theorem exists_end_of_linkCount_le (h : r.linkCount name ≤ 8) :
    ∃ final, r.aliases.find? final = none ∧
      ∀ i other, r.ahead? i name = some other → r.resolveAlias other = final := by
  obtain ⟨n, hn⟩ := ENat.ne_top_iff_exists.mp (ne_top_of_le_ne_top (ENat.natCast_ne_top 8) h)
  have hends : r.EndsAfter n name := linkCount_eq_iff.mp hn.symm
  have hbound : n ≤ aliasBound := by
    rw [← hn] at h
    exact_mod_cast h
  obtain ⟨final, hfinal, hunlinked⟩ := id hends
  refine ⟨final, hunlinked, fun i other hother => ?_⟩
  obtain ⟨k, rfl⟩ := Nat.exists_eq_add_of_le (hends.le_of_eq_some hother)
  rw [ahead?_add_of_eq hother] at hfinal
  exact followAlias_of_ahead? hfinal (by omega) (.inr hunlinked)

/-- A chain that has not ended before is followed for eight links. -/
theorem ahead?_aliasBound (h : ∀ i < aliasBound, ¬ r.EndsAfter i name) :
    r.ahead? aliasBound name = some (r.resolveAlias name) := by
  obtain ⟨other, hother⟩ := exists_ahead? h
  rw [hother, resolveAlias, followAlias_of_ahead? hother le_rfl (.inl rfl)]

/-- Two names stand for the same, whatever is asked of them. -/
structure Alike (r : Registry) (name other : String) : Prop where
  resolveAlias : r.resolveAlias name = r.resolveAlias other
  struct? : r.struct? name = r.struct? other
  command? : r.command? name = r.command? other
  isStruct : r.isStruct name = r.isStruct other
  isHandle : r.isHandle name = r.isHandle other

theorem alike_of_resolveAlias_eq (h : r.resolveAlias name = r.resolveAlias other) :
    r.Alike name other := by
  have hresolved : r.resolved? name = r.resolved? other := by rw [resolved?, resolved?, h]
  have hstruct : r.struct? name = r.struct? other := by rw [struct?, struct?, hresolved]
  refine ⟨h, hstruct, ?_, ?_, ?_⟩
  · rw [command?, command?, hresolved]
  · rw [isStruct, isStruct, hstruct]
  · rw [isHandle, isHandle, hresolved]

/-- What the resolution of a name comes to. -/
structure AliasResolution (r : Registry) (name : String) : Prop where
  /-- Eight links are followed, or all if there are fewer. -/
  follows : ∃ i : ℕ, (i : ℕ∞) = min 8 (r.linkCount name) ∧
    r.ahead? i name = some (r.resolveAlias name)
  /-- Links go on for ever exactly if they come round a cycle. -/
  endless : r.linkCount name = ⊤ ↔ ∃ enter period entry, 0 < period ∧
    r.ahead? enter name = some entry ∧ r.ahead? period entry = some entry
  /-- A chain of at most eight links is followed to its end. -/
  unlinked : r.linkCount name ≤ 8 → r.aliases.find? (r.resolveAlias name) = none
  /-- To resolve the name once more changes nothing. -/
  idempotent : r.linkCount name ≤ 8 → r.resolveAlias (r.resolveAlias name) = r.resolveAlias name
  /-- All names on such a chain stand for the same. -/
  alike : r.linkCount name ≤ 8 → ∀ i other, r.ahead? i name = some other → r.Alike other name
  /-- From a chain that runs into a cycle comes a name on the way to the cycle or on it. -/
  cycle : ∀ enter period entry, 0 < period → r.ahead? enter name = some entry →
    r.ahead? period entry = some entry →
    (∃ i < enter, r.ahead? i name = some (r.resolveAlias name)) ∨
      ∃ i < period, r.ahead? i entry = some (r.resolveAlias name)

theorem exists_follows (r : Registry) (name : String) :
    ∃ i : ℕ, (i : ℕ∞) = min 8 (r.linkCount name) ∧
      r.ahead? i name = some (r.resolveAlias name) := by
  by_cases hshort : ∃ i < aliasBound, r.EndsAfter i name
  · obtain ⟨i, hi, hends⟩ := hshort
    obtain ⟨other, hother, hunlinked⟩ := id hends
    refine ⟨i, ?_, ?_⟩
    · rw [hends.linkCount_eq, min_eq_right]
      exact_mod_cast hi.le
    · rw [hother, resolveAlias, followAlias_of_ahead? hother hi.le (.inr hunlinked)]
  · push Not at hshort
    refine ⟨aliasBound, ?_, ahead?_aliasBound hshort⟩
    rw [min_eq_left]
    · rfl
    · refine le_iInf₂ fun i hi => ?_
      have hle : aliasBound ≤ i := Nat.le_of_not_lt fun hlt => hshort i hlt hi
      exact_mod_cast hle

/-- Every name is resolved to the one at the end of its chain of alias links, or eight links ahead
on a longer one. -/
theorem alias_resolution_exact (r : Registry) (name : String) : r.AliasResolution name := by
  refine ⟨exists_follows r name, ?_, ?_, ?_, ?_, ?_⟩
  · rw [linkCount_eq_top_iff]
    refine ⟨exists_cycle, ?_⟩
    rintro ⟨enter, period, entry, hperiod, henter, hcycle⟩
    exact not_endsAfter_of_cycle hperiod henter hcycle
  · intro h
    obtain ⟨final, hunlinked, hresolve⟩ := exists_end_of_linkCount_le h
    rwa [hresolve 0 name rfl]
  · intro h
    obtain ⟨final, hunlinked, hresolve⟩ := exists_end_of_linkCount_le h
    rw [hresolve 0 name rfl]
    exact resolveAlias_of_unlinked hunlinked
  · intro h i other hother
    obtain ⟨final, -, hresolve⟩ := exists_end_of_linkCount_le h
    exact alike_of_resolveAlias_eq ((hresolve i other hother).trans (hresolve 0 name rfl).symm)
  · intro enter period entry hperiod henter hcycle
    have hfar : r.ahead? aliasBound name = some (r.resolveAlias name) :=
      ahead?_aliasBound fun i _ => not_endsAfter_of_cycle hperiod henter hcycle i
    -- eight links lead to a name before the cycle, or once or several times around it
    by_cases hbefore : aliasBound < enter
    · exact .inl ⟨aliasBound, hbefore, hfar⟩
    · obtain ⟨k, hk⟩ := Nat.exists_eq_add_of_le (Nat.le_of_not_lt hbefore)
      rw [hk, ahead?_add_of_eq henter, ← ahead?_mod_of_cycle hcycle] at hfar
      exact .inr ⟨k % period, Nat.mod_lt k hperiod, hfar⟩

/-- Two structs that re-export each other. -/
def mirrors : List Element :=
  [.struct { name := "VkLeft", aliasOf := some "VkRight" },
    .struct { name := "VkRight", aliasOf := some "VkLeft" }]

example : (mirrors.foldl record {}).resolveAlias "VkLeft" = "VkLeft" := by decide

end Registry

end VulkanWire
