import VulkanWire.Registry

/-!
# Handles and the device

The handles of an API form a tree below a few roots: a handle type names its
parent, which may be written under an alias. Above every name there is a chain,
from the name that its aliases lead to up to a name that is no handle with a
parent, if it ends at all: in a malformed schema it may run into a cycle. A
name is a device-level handle if the device is among the first sixteen names of
its chain.

## Main definitions

* `Registry.HasParent` — one handle stands directly above another one.
* `Registry.Above` — a name stands so many places above another one.
* `Registry.DeviceSearch` — what the search for the device says of a name.

## Main results

* `Registry.reachesDevice_iff` — what a search along the chain finds.
* `Registry.Above.exists_lt_of_cycle` — a chain that runs into a cycle has no
  names but those before it comes round.
* `Registry.device_search_exact` — which names are device-level handles.
-/

namespace VulkanWire

namespace Registry

variable {r : Registry} {i j : Nat} {name parent top other : String}

/-! ## Chains of parents -/

/-- A name is recorded as a handle type with a parent, and the aliases of the parent lead to the
second name. -/
def HasParent (r : Registry) (name parent : String) : Prop :=
  ∃ d target, r.definition? name = some (.type d) ∧ d.kind = .handle ∧ d.parent = some target ∧
    r.resolveAlias target = parent

theorem parentHandle?_eq_some_iff : r.parentHandle? name = some parent ↔ r.HasParent name parent := by
  constructor
  · intro h
    unfold parentHandle? at h
    split at h
    · rename_i d hd
      split at h
      · rename_i hkind
        obtain ⟨target, htarget, hparent⟩ := Option.map_eq_some_iff.mp h
        exact ⟨d, target, hd, hkind, htarget, hparent⟩
      · cases h
    · cases h
  · rintro ⟨d, target, hd, hkind, htarget, hparent⟩
    rw [parentHandle?, hd]
    simp only [if_pos hkind, htarget, Option.map_some, hparent]

/-- Nothing has two parents. -/
theorem HasParent.unique (h : r.HasParent name parent) (h' : r.HasParent name other) :
    parent = other := by
  rw [← parentHandle?_eq_some_iff] at h h'
  exact Option.some.inj (h.symm.trans h')

/-- So many places above a name stands another one. -/
inductive Above (r : Registry) : Nat → String → String → Prop where
  | self (name : String) : Above r 0 name name
  | step {i : Nat} {name parent top : String} (h : r.HasParent name parent)
      (rest : Above r i parent top) : Above r (i + 1) name top

theorem Above.trans (h : r.Above i name other) (h' : r.Above j other top) :
    r.Above (i + j) name top := by
  induction h with
  | self name => rwa [Nat.zero_add]
  | @step i name parent other hparent _ ih =>
      rw [Nat.add_right_comm]
      exact .step hparent (ih h')

/-- Above a name that stands above another one, the chains are the same. -/
theorem Above.rest (h : r.Above i name other) (h' : r.Above (i + j) name top) :
    r.Above j other top := by
  induction h with
  | self name => rwa [Nat.zero_add] at h'
  | @step i name parent other hparent _ ih =>
      rw [Nat.add_right_comm] at h'
      cases h' with
      | step hparent' rest =>
          obtain rfl := hparent.unique hparent'
          exact ih rest

/-- A chain that comes back to one of its names goes on with those it had before. -/
theorem Above.exists_lt_of_cycle {m period : Nat} (hperiod : 0 < period)
    (henter : r.Above i name other) (hcycle : r.Above period other other)
    (h : r.Above m name top) : ∃ j < i + period, r.Above j name top := by
  induction m using Nat.strongRecOn with
  | ind m ih =>
      by_cases hm : m < i + period
      · exact ⟨m, hm, h⟩
      -- once around the cycle, the same name was met a period before
      · obtain ⟨k, rfl⟩ := Nat.exists_eq_add_of_le (Nat.le_of_not_lt hm)
        have hrest : r.Above k other top := (henter.trans hcycle).rest h
        exact ih (i + k) (by omega) (henter.trans hrest)

/-! ## Searching for the device -/

/-- A search finds the device where it is among so many first names of the chain. -/
theorem reachesDevice_iff (n : Nat) (name : String) :
    r.reachesDevice n name = true ↔ ∃ i < n, r.Above i name deviceHandle := by
  induction n generalizing name with
  | zero => simp [reachesDevice]
  | succ n ih =>
      rw [reachesDevice]
      by_cases hname : name = deviceHandle
      · subst hname
        rw [if_pos rfl]
        exact iff_of_true rfl ⟨0, Nat.zero_lt_succ n, .self _⟩
      · rw [if_neg hname]
        constructor
        · intro h
          split at h
          · rename_i parent hparent
            obtain ⟨i, hi, habove⟩ := (ih parent).mp h
            exact ⟨i + 1, Nat.succ_lt_succ hi, .step (parentHandle?_eq_some_iff.mp hparent) habove⟩
          · cases h
        · rintro ⟨i, hi, habove⟩
          cases habove with
          | self => exact absurd rfl hname
          | @step i _ parent _ hparent rest =>
              rw [parentHandle?_eq_some_iff.mpr hparent]
              exact (ih parent).mpr ⟨i, Nat.lt_of_succ_lt_succ hi, rest⟩

/-- What the search for the device says of a name. -/
structure DeviceSearch (r : Registry) (name : String) : Prop where
  /-- The device is found up to fifteen places above the name, aliases resolved. -/
  iff : r.isDeviceLevelHandle name = true ↔ ∃ i ≤ 15, r.Above i (r.resolveAlias name) "VkDevice"
  /-- Nothing is one that does not descend from the device. -/
  orphan : (∀ i, ¬ r.Above i (r.resolveAlias name) "VkDevice") → r.isDeviceLevelHandle name = false
  /-- Whatever descends from the device in at most fifteen steps is one. -/
  near : ∀ i ≤ 15, r.Above i (r.resolveAlias name) "VkDevice" → r.isDeviceLevelHandle name = true
  /-- A chain that runs into a cycle without having met the device never meets it. -/
  cycle : ∀ i period entry, 0 < period → r.Above i (r.resolveAlias name) entry →
    r.Above period entry entry → (∀ j < i + period, ¬ r.Above j (r.resolveAlias name) "VkDevice") →
    r.isDeviceLevelHandle name = false

/-- The device-level handles are the names with the device at most fifteen places above them. -/
theorem device_search_exact (r : Registry) (name : String) : r.DeviceSearch name := by
  have hiff : r.isDeviceLevelHandle name = true ↔
      ∃ i ≤ 15, r.Above i (r.resolveAlias name) "VkDevice" := by
    rw [isDeviceLevelHandle, reachesDevice_iff]
    exact exists_congr fun i => and_congr_left' Nat.lt_succ_iff
  have horphan (h : ∀ i, ¬ r.Above i (r.resolveAlias name) "VkDevice") :
      r.isDeviceLevelHandle name = false := by
    rw [← Bool.not_eq_true, hiff]
    rintro ⟨i, -, habove⟩
    exact h i habove
  refine ⟨hiff, horphan, fun i hi habove => hiff.mpr ⟨i, hi, habove⟩, ?_⟩
  intro i period entry hperiod henter hcycle hnone
  apply horphan
  intro m hm
  obtain ⟨j, hj, habove⟩ := Above.exists_lt_of_cycle hperiod henter hcycle hm
  exact hnone j hj habove

/-- A handle that is its own parent. -/
def loop : Element := .type { name := "VkLoop", kind := .handle, parent := "VkLoop" }

example : (Registry.record {} loop).isDeviceLevelHandle "VkLoop" = false := by decide

end Registry

end VulkanWire
