import Mathlib.Data.List.Chain
import VulkanWire.Proofs.Path.Spelling

/-!
# Slashes in the spelling of components

Components are written with slashes between them, and the text of the root is a
slash itself. So the spelling of a path's components has two slashes in a row
exactly where the root is followed by something else, and then only in front.

## Main definitions

* `Path.HasDoubleSlash` — two slashes in a row.

## Main results

* `Path.hasDoubleSlash_spell_iff` — which components are spelled with two
  slashes in a row.
* `Path.exists_spell_of_isAbsolute` — where in the spelling they stand.
-/

namespace VulkanWire

namespace Path

variable {cs : List Char} {c : Component} {ps : List Component}

/-- Two slashes in a row. -/
def HasDoubleSlash (text : String) : Prop := ['/', '/'] <:+: text.toList

instance (text : String) : Decidable (HasDoubleSlash text) :=
  inferInstanceAs (Decidable (['/', '/'] <:+: text.toList))

theorem not_hasDoubleSlash_iff {text : String} :
    ¬ HasDoubleSlash text ↔ text.toList.IsChain fun a b => a = '/' → b ≠ '/' := by
  rw [List.isChain_iff_forall_rel_of_append_cons_cons]
  constructor
  · rintro h a b before after heq rfl rfl
    exact h ⟨before, after, by simp [heq]⟩
  · rintro h ⟨before, after, heq⟩
    have htext : text.toList = before ++ '/' :: '/' :: after := by simp [← heq]
    exact h htext rfl rfl

theorem isChain_of_slashless (h : '/' ∉ cs) : cs.IsChain fun a b => a = '/' → b ≠ '/' := by
  rw [List.isChain_iff_forall_rel_of_append_cons_cons]
  rintro a b before after rfl rfl
  exact absurd (by simp) h

/-- A component that has a text without slashes. -/
def IsPiece (c : Component) : Prop := '/' ∉ c.text.toList ∧ c.text.toList ≠ []

theorem Component.IsStep.isPiece (h : c.IsStep) : IsPiece c := ⟨h.slashless, h.text_ne_nil⟩

theorem head?_spell_ne (h : ∀ c ∈ ps, IsPiece c) : (spell ps).toList.head? ≠ some '/' := by
  cases ps with
  | nil => decide
  | cons c ps =>
      obtain ⟨hslashless, hne⟩ := h c List.mem_cons_self
      rw [toList_spell_cons, List.head?_append_of_ne_nil _ hne]
      exact fun hhead => hslashless (List.mem_of_head? hhead)

/-- The slash behind a component is followed by none. -/
theorem isChain_spellAfter (h : ∀ c ∈ ps, IsPiece c)
    (hspell : (spell ps).toList.IsChain fun a b => a = '/' → b ≠ '/') :
    (spellAfter ps).IsChain fun a b => a = '/' → b ≠ '/' := by
  rw [spellAfter]
  split
  · exact .nil
  · refine List.isChain_cons.mpr ⟨?_, hspell⟩
    rintro b hb - rfl
    exact head?_spell_ne h hb

/-- Components without slashes are spelled without two slashes in a row. -/
theorem isChain_spell (h : ∀ c ∈ ps, IsPiece c) :
    (spell ps).toList.IsChain fun a b => a = '/' → b ≠ '/' := by
  induction ps with
  | nil => exact .nil
  | cons c ps ih =>
      have hps : ∀ c ∈ ps, IsPiece c := fun c hc => h c (List.mem_cons_of_mem _ hc)
      have hslashless := (h c List.mem_cons_self).1
      rw [toList_spell_cons]
      refine (isChain_of_slashless hslashless).append (isChain_spellAfter hps (ih hps)) ?_
      rintro a ha - - rfl
      exact absurd (List.mem_of_getLast? ha) hslashless

theorem not_hasDoubleSlash_spell (h : ∀ c ∈ ps, c.IsStep) : ¬ HasDoubleSlash (spell ps) :=
  not_hasDoubleSlash_iff.mpr (isChain_spell fun c hc => (h c hc).isPiece)

/-- The components of a path are spelled with two slashes in a row exactly where the root is
followed by something else. -/
theorem hasDoubleSlash_spell_iff (p : Path) :
    HasDoubleSlash (spell p.components) ↔ p.isAbsolute = true ∧ p.components ≠ [.root] := by
  have hshape := p.shape
  generalize p.isAbsolute = b, p.components = ps at hshape ⊢
  cases hshape with
  | @absolute ps hsteps =>
      have htext : (spell (.root :: ps)).toList = '/' :: spellAfter ps := toList_spell_cons _ _
      cases ps with
      | nil => exact iff_of_false (by decide) (by simp)
      | cons c ps =>
          refine iff_of_true ⟨[], (spell (c :: ps)).toList, ?_⟩ (by simp)
          rw [htext, spellAfter, if_neg (List.cons_ne_nil c ps)]
          rfl
  | @dotted ps hsteps =>
      refine iff_of_false (not_hasDoubleSlash_iff.mpr (isChain_spell ?_)) (by simp)
      intro c hc
      rcases List.mem_cons.mp hc with rfl | hc
      · exact ⟨by decide, by decide⟩
      · exact (hsteps c hc).isPiece
  | plain hsteps => exact iff_of_false (not_hasDoubleSlash_spell hsteps) (by simp)

/-- Behind the first slash of an absolute path, its components are spelled without two slashes in a
row. -/
theorem exists_spell_of_isAbsolute {p : Path} (h : p.isAbsolute = true) :
    ∃ rest, spell p.components = "/" ++ rest ∧ ¬ HasDoubleSlash rest := by
  have hshape := p.shape
  rw [h] at hshape
  generalize p.components = ps at hshape ⊢
  cases hshape with
  | @absolute ps hsteps =>
      have hpieces : ∀ c ∈ ps, IsPiece c := fun c hc => (hsteps c hc).isPiece
      refine ⟨String.ofList (spellAfter ps), ?_, ?_⟩
      · apply String.toList_injective
        simp [toList_spell_cons, Component.text]
      · rw [not_hasDoubleSlash_iff, String.toList_ofList]
        exact isChain_spellAfter hpieces (isChain_spell hpieces)

end Path

end VulkanWire
