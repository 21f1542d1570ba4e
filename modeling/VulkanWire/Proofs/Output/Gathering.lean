import VulkanWire.Output.Module

/-!
# Gathering text in pieces

A module that takes one emission after the other ends up with the text of all
of them, and it does not matter how the emissions were grouped on the way.
That is what lets a whole run be described by the list of its pieces.

## Main results

* `Emission.concat_append` — concatenation respects the grouping of a list.
* `OutputModule.take_take` — two emissions taken are their concatenation taken.
* `OutputModule.take_of_rejects` — a module that is suppressed or finalized
  keeps the text it has.
-/

namespace VulkanWire

namespace Emission

/-! ## Emissions as a monoid -/

@[simp] theorem append_header (a b : Emission) : (a ++ b).header = a.header ++ b.header := rfl

@[simp] theorem append_implementation (a b : Emission) :
    (a ++ b).implementation = a.implementation ++ b.implementation := rfl

theorem eq_of {a b : Emission} (hh : a.header = b.header)
    (hi : a.implementation = b.implementation) : a = b := by
  cases a
  cases b
  simp_all

theorem append_assoc (a b c : Emission) : a ++ b ++ c = a ++ (b ++ c) := by
  apply eq_of
  · simp only [append_header, String.append_assoc]
  · simp only [append_implementation, String.append_assoc]

@[simp] theorem silent_append (a : Emission) : silent ++ a = a := by
  apply eq_of
  · exact String.empty_append
  · exact String.empty_append

@[simp] theorem append_silent (a : Emission) : a ++ silent = a := by
  apply eq_of
  · exact String.append_empty
  · exact String.append_empty

/-! ## Concatenation of lists -/

@[simp] theorem concat_nil : concat [] = silent := by
  apply eq_of
  · exact String.join_nil
  · exact String.join_nil

@[simp] theorem concat_cons (a : Emission) (es : List Emission) :
    concat (a :: es) = a ++ concat es := by
  apply eq_of
  · simp only [concat, List.map_cons, String.join_cons, append_header]
  · simp only [concat, List.map_cons, String.join_cons, append_implementation]

/-- Concatenation respects the grouping of a list. -/
theorem concat_append (es fs : List Emission) : concat (es ++ fs) = concat es ++ concat fs := by
  induction es with
  | nil => simp
  | cons a es ih => simp [ih, append_assoc]

end Emission

/-! ## Lines -/

theorem lines_nil : lines [] = "" := String.join_nil

theorem lines_cons (l : String) (ls : List String) : lines (l :: ls) = l ++ "\n" ++ lines ls := by
  rw [lines, List.map_cons, String.join_cons]
  rfl

namespace OutputModule

variable (m : OutputModule)

/-! ## What a module keeps while it gathers text -/

/-- The text gathered for both files. -/
def text : Emission := ⟨m.header, m.implementation⟩

@[simp] theorem spec_take (e : Emission) : (m.take e).spec = m.spec := by
  unfold take
  split <;> rfl

@[simp] theorem preambles_take (e : Emission) : (m.take e).preambles = m.preambles := by
  unfold take
  split <;> rfl

@[simp] theorem suppressed_take (e : Emission) : (m.take e).suppressed = m.suppressed := by
  unfold take
  split <;> rfl

@[simp] theorem finalized_take (e : Emission) : (m.take e).finalized = m.finalized := by
  unfold take
  split <;> rfl

@[simp] theorem name_take (e : Emission) : (m.take e).name = m.name := by
  simp only [name, spec_take]

@[simp] theorem usesGuards_take (e : Emission) : (m.take e).usesGuards = m.usesGuards := by
  simp only [usesGuards, spec_take]

/-- Modules with the same preambles and the same text have the same files. -/
theorem texts_congr {m m' : OutputModule} (hp : m.preambles = m'.preambles)
    (ht : m.text = m'.text) : m.headerText = m'.headerText ∧ m.implText = m'.implText := by
  obtain ⟨hheader, himpl⟩ := Emission.mk.inj ht
  constructor
  · rw [headerText, headerText, hp, hheader]
  · rw [implText, implText, hp, himpl]

/-! ## Text through taking -/

variable {m}

theorem text_take_of_accepts (h : m.acceptsText = true) (e : Emission) :
    (m.take e).text = m.text ++ e := by
  simp only [take, h, if_true]
  rfl

/-- A module that is suppressed or finalized keeps the text it has. -/
theorem take_of_rejects (h : m.acceptsText = false) (e : Emission) : m.take e = m := by
  simp [take, h]

variable (m)

@[simp] theorem take_silent : m.take .silent = m := by
  unfold take
  split
  · cases m
    simp [Emission.silent]
  · rfl

/-- Two emissions taken are their concatenation taken. -/
theorem take_take (a b : Emission) : (m.take a).take b = m.take (a ++ b) := by
  by_cases h : m.acceptsText = true
  · have hopen : m.suppressed = false ∧ m.finalized = false := by simpa [acceptsText] using h
    simp [take, acceptsText, hopen.1, hopen.2, String.append_assoc]
  · have hf : m.acceptsText = false := by simpa using h
    rw [take_of_rejects hf, take_of_rejects hf, take_of_rejects hf]

/-! ## Guards as emissions -/

/-- The text that opens a feature's guard in both files, where guards are used. -/
def guardOpened (guarded : Bool) (feature : String) : Emission :=
  if guarded then ⟨s!"#ifdef {feature}\n", s!"#ifdef {feature}\n"⟩ else .silent

/-- The text that closes a guard in both files, where guards are used. -/
def guardClosed (guarded : Bool) : Emission :=
  if guarded then ⟨"#endif\n", "#endif\n"⟩ else .silent

theorem openGuard_eq_take (feature : String) :
    m.openGuard feature = m.take (guardOpened m.usesGuards feature) := by
  by_cases h : m.usesGuards = true
  · simp only [openGuard, guardOpening, guardOpened, h, if_true]
  · simp [openGuard, guardOpened, h]

theorem closeGuard_eq_take : m.closeGuard = m.take (guardClosed m.usesGuards) := by
  by_cases h : m.usesGuards = true
  · simp only [closeGuard, guardClosing, guardClosed, h, if_true]
  · simp [closeGuard, guardClosed, h]

end OutputModule

end VulkanWire
