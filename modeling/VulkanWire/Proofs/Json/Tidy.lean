import VulkanWire.Json.Value

/-!
# Documents of typed data

Writers of typed data compose documents from integers, truth values and texts.
Such a document has no malformed text and no infinite number in it, whatever its
integers are, and how deeply it is nested is known from what it is composed of.

## Main definitions

* `Json.Tidy` — such documents, with a bound on their nesting.

## Main results

* `Json.Tidy.depth_le`, `Json.Tidy.isPlain` — what readers check of them.
-/

namespace VulkanWire

namespace Decimal

/-- Rounding at most doubles a number. -/
theorem nearestFloat_le (n : Nat) : nearestFloat n ≤ 2 * n := by
  by_cases hn : n = 0
  · subst hn
    decide
  have hunit : Nat.pow 2 (n.log2 - 52) ≤ n :=
    Nat.le_trans (Nat.pow_le_pow_right (by decide) (Nat.sub_le _ _)) (Nat.log2_self_le hn)
  have hkept : n / Nat.pow 2 (n.log2 - 52) * Nat.pow 2 (n.log2 - 52) ≤ n := Nat.div_mul_le_self _ _
  rw [nearestFloat]
  split
  · rw [Nat.add_mul]
    omega
  · omega

theorem leadingWord_of_lt {n : Nat} (h : n < UInt64.size) : leadingWord n = (n, 0) := by
  rw [leadingWord, if_pos h]

end Decimal

namespace Json

/-- Integers of at most 64 bits beside the sign become finite floats. -/
theorem Number.isFinite_ofInt {n : Int} (h : n.natAbs < UInt64.size) :
    (Number.ofInt n).isFinite = true := by
  have hsignificand : (Number.ofInt n).significand = (n.natAbs, 0) := by
    have hpow : Nat.pow 10 0 = 1 := rfl
    simp [Number.significand, Number.ofInt, Decimal.leadingWord_of_lt h, Nat.mod_one]
  have hone : Decimal.nearestFloat (Nat.pow 10 (Int.toNat 0)) = 1 := by decide
  have hbound : 2 * UInt64.size < Decimal.overflowBound := by decide +kernel
  have hnear := Decimal.nearestFloat_le n.natAbs
  simp only [isFinite, hsignificand, Decimal.isFiniteProduct, hone]
  split
  · rfl
  · rw [if_neg (by decide), decide_eq_true_eq]
    omega

/-- Documents that are composed of integers of at most 64 bits beside the sign, truth values and
texts, nested no deeper than a bound. -/
inductive Tidy : Nat → Json → Prop
  | null {levels : Nat} : Tidy levels .null
  | bool {levels : Nat} (b : Bool) : Tidy levels (.bool b)
  | int {levels : Nat} {n : Int} (h : n.natAbs < UInt64.size) : Tidy levels (.int n)
  | text {levels : Nat} (s : String) : Tidy levels (.text s)
  | array {levels : Nat} {vs : List Json} (h : ∀ v ∈ vs, Tidy levels v) :
      Tidy (levels + 1) (.array vs)
  | record {levels : Nat} {ms : List (String × Json)} (h : ∀ m ∈ ms, Tidy levels m.2) :
      Tidy (levels + 1) (.record ms)

theorem itemsDepth_le {levels : Nat} {vs : List Json} (h : ∀ v ∈ vs, v.depth ≤ levels) :
    itemsDepth vs ≤ levels := by
  induction vs with
  | nil => exact Nat.zero_le _
  | cons v vs ih =>
      obtain ⟨hv, hvs⟩ := List.forall_mem_cons.mp h
      exact Nat.max_le.mpr ⟨hv, ih hvs⟩

theorem membersDepth_le {levels : Nat} {ms : List (Option String × Json)}
    (h : ∀ m ∈ ms, m.2.depth ≤ levels) : membersDepth ms ≤ levels := by
  induction ms with
  | nil => exact Nat.zero_le _
  | cons m ms ih =>
      obtain ⟨hm, hms⟩ := List.forall_mem_cons.mp h
      exact Nat.max_le.mpr ⟨hm, ih hms⟩

theorem itemsPlain_of_forall {vs : List Json} (h : ∀ v ∈ vs, v.isPlain = true) :
    itemsPlain vs = true := by
  induction vs with
  | nil => rfl
  | cons v vs ih =>
      obtain ⟨hv, hvs⟩ := List.forall_mem_cons.mp h
      rw [itemsPlain, hv, ih hvs]
      rfl

theorem membersPlain_of_forall {ms : List (Option String × Json)}
    (h : ∀ m ∈ ms, m.1.isSome = true ∧ m.2.isPlain = true) : membersPlain ms = true := by
  induction ms with
  | nil => rfl
  | cons m ms ih =>
      obtain ⟨⟨hname, hm⟩, hms⟩ := List.forall_mem_cons.mp h
      rw [membersPlain, hname, hm, ih hms]
      rfl

variable {levels : Nat} {v : Json}

theorem Tidy.depth_le (h : Tidy levels v) : v.depth ≤ levels := by
  induction h with
  | null | bool | int | text => exact Nat.zero_le _
  | array _ ih => exact Nat.succ_le_succ (itemsDepth_le ih)
  | record _ ih =>
      refine Nat.succ_le_succ (membersDepth_le ?_)
      intro m hm
      obtain ⟨m', hm', rfl⟩ := List.mem_map.mp hm
      exact ih m' hm'

theorem Tidy.isPlain (h : Tidy levels v) : v.isPlain = true := by
  induction h with
  | null | bool | text => rfl
  | int h => exact Number.isFinite_ofInt h
  | array _ ih => exact itemsPlain_of_forall ih
  | record _ ih =>
      refine membersPlain_of_forall ?_
      intro m hm
      obtain ⟨m', hm', rfl⟩ := List.mem_map.mp hm
      exact ⟨rfl, ih m' hm'⟩

end Json

end VulkanWire
