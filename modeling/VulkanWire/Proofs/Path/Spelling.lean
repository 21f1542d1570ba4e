import VulkanWire.Proofs.Storage.Naming

/-!
# Components and their spelling

A path opens with the root, with a single dot, or with neither, and all of its
other components are steps: names and double dots. So the components of a path
can be written with slashes between them and read back, a relative path joined
to a base adds its steps to the components of the base, and what is left of a
path once a base has been stripped leads from the base to the path again.

## Main definitions

* `Path.Component.IsStep` — a component that can stand anywhere in a path.
* `Path.steps` — the steps that the pieces of a text stand for.
* `Path.Opens` — what a text opens with, as a relation.

## Main results

* `Path.components_spell` — the components of a path can be read back.
* `Path.components_join` — the components of a joined path.
* `Path.relativeTo?_eq_some_iff` — what is left of a path below a base.
* `Path.components_join_spell` — what is left of a path leads to it from the base.
-/

namespace VulkanWire

namespace Path

/-! ## Steps -/

/-- A component that can stand anywhere in a path. -/
inductive Component.IsStep : Component → Prop where
  | up : IsStep .up
  | name {text : String} (h : IsName text) : IsStep (.name text)

/-- A text that goes on after a piece: it is empty, or a slash is next. -/
def EndsPiece (cs : List Char) : Prop := ∀ c ∈ cs.head?, c = '/'

/-- The steps that the pieces of a text stand for, wherever in a path the text stands. -/
def steps (cs : List Char) : List Component := (segments cs).filterMap component?

variable {cs xs ys piece : List Char} {c : Component}

theorem endsPiece_nil : EndsPiece [] := by
  intro c hc
  cases hc

theorem endsPiece_slash : EndsPiece ('/' :: cs) := by
  intro c hc
  injection hc with hc
  exact hc.symm

@[simp] theorem steps_nil : steps [] = [] := rfl

theorem steps_append_slash (xs ys : List Char) : steps (xs ++ '/' :: ys) = steps xs ++ steps ys := by
  rw [steps, segments_append_slash, List.filterMap_append]
  rfl

@[simp] theorem steps_slash (ys : List Char) : steps ('/' :: ys) = steps ys :=
  steps_append_slash [] ys

/-- Only the empty piece and the single dot stand for nothing. -/
theorem component?_eq_none_iff : component? piece = none ↔ piece = [] ∨ piece = ['.'] := by
  rw [component?]
  by_cases hsilent : piece = [] ∨ piece = ['.']
  · simp [isSilent, hsilent]
  · by_cases hup : piece = ['.', '.'] <;> simp [isSilent, hsilent, hup]

theorem steps_of_slashless (h : '/' ∉ cs) : steps cs = (component? cs).toList := by
  rw [steps, segments_of_slashless h]
  cases hcs : component? cs <;> simp [hcs]

/-- A piece gives its component, and the text after it goes on with the next piece. -/
theorem steps_append_of_endsPiece (hpiece : '/' ∉ piece) (hcs : EndsPiece cs) :
    steps (piece ++ cs) = (component? piece).toList ++ steps cs := by
  cases cs with
  | nil => rw [List.append_nil, steps_of_slashless hpiece, steps_nil, List.append_nil]
  | cons c cs =>
      obtain rfl : c = '/' := hcs c rfl
      rw [steps_append_slash, steps_of_slashless hpiece, steps_slash]

/-- Every text goes on after a piece, which may be empty. -/
theorem exists_piece (cs : List Char) :
    ∃ piece rest, cs = piece ++ rest ∧ '/' ∉ piece ∧ EndsPiece rest := by
  induction cs with
  | nil => exact ⟨[], [], rfl, List.not_mem_nil, endsPiece_nil⟩
  | cons c cs ih =>
      by_cases hc : c = '/'
      · subst hc
        exact ⟨[], '/' :: cs, rfl, List.not_mem_nil, endsPiece_slash⟩
      · obtain ⟨piece, rest, rfl, hpiece, hrest⟩ := ih
        refine ⟨c :: piece, rest, rfl, ?_, hrest⟩
        rw [List.mem_cons, not_or]
        exact ⟨Ne.symm hc, hpiece⟩

theorem slashless_of_mem_segments (h : piece ∈ segments cs) : '/' ∉ piece := by
  induction cs generalizing piece with
  | nil =>
      rw [segments, List.mem_singleton] at h
      subst h
      exact List.not_mem_nil
  | cons c cs ih =>
      by_cases hc : c = '/'
      · rw [segments, if_pos hc, List.mem_cons] at h
        rcases h with rfl | h
        · exact List.not_mem_nil
        · exact ih h
      · cases hcs : segments cs with
        | nil => exact absurd hcs (segments_ne_nil cs)
        | cons first rest =>
            simp only [segments, if_neg hc, hcs, List.mem_cons] at h
            rcases h with rfl | h
            · rw [List.mem_cons, not_or]
              exact ⟨Ne.symm hc, ih (hcs ▸ List.mem_cons_self)⟩
            · exact ih (hcs ▸ List.mem_cons_of_mem _ h)

/-- Pieces stand for nothing but steps. -/
theorem isStep_of_mem_steps (h : c ∈ steps cs) : c.IsStep := by
  obtain ⟨piece, hpiece, hc⟩ := List.mem_filterMap.mp h
  rw [component?] at hc
  split at hc
  · cases hc
  · rename_i hsilent
    have hsays : piece ≠ [] ∧ piece ≠ ['.'] := by simpa [isSilent] using hsilent
    split at hc
    · injection hc with hc
      subst hc
      exact .up
    · rename_i hup
      injection hc with hc
      subst hc
      refine .name ⟨?_, ?_, ?_, ?_⟩
      · simpa using slashless_of_mem_segments hpiece
      · exact fun heq => hsays.1 (by simpa using congrArg String.toList heq)
      · exact fun heq => hsays.2 (by simpa using congrArg String.toList heq)
      · exact fun heq => hup (by simpa using congrArg String.toList heq)

namespace Component

theorem IsStep.ne_root (h : c.IsStep) : c ≠ .root := by
  cases h <;> simp

theorem IsStep.ne_here (h : c.IsStep) : c ≠ .here := by
  cases h <;> simp

theorem IsStep.slashless (h : c.IsStep) : '/' ∉ c.text.toList := by
  cases h with
  | up => decide
  | name h => exact h.slashless

theorem IsStep.text_ne_nil (h : c.IsStep) : c.text.toList ≠ [] := by
  cases h with
  | up => decide
  | name h => exact fun hnil => h.nonempty (String.toList_eq_nil_iff.mp hnil)

theorem IsStep.text_ne_dot (h : c.IsStep) : c.text.toList ≠ ['.'] := by
  cases h with
  | up => decide
  | name h => exact fun hdot => h.here (String.toList_injective hdot)

/-- A step can be read back from its text. -/
theorem IsStep.component?_text (h : c.IsStep) : component? c.text.toList = some c := by
  have hsilent : isSilent c.text.toList = false := by
    simp [isSilent, h.text_ne_nil, h.text_ne_dot]
  rw [component?, if_neg (by simp [hsilent])]
  cases h with
  | up => rfl
  | name h =>
      have hup : (Component.name _).text.toList ≠ ['.', '.'] := fun heq =>
        h.up (String.toList_injective heq)
      rw [if_neg hup]
      simp [Component.text]

end Component

/-! ## Openings -/

/-- A text opens with components, and the pieces of the rest follow. -/
inductive Opens : List Char → List Component → List Char → Prop where
  | root (rest : List Char) : Opens ('/' :: rest) [.root] rest
  | here {rest : List Char} (h : EndsPiece rest) : Opens ('.' :: rest) [.here] rest
  | plain {cs : List Char} (hroot : cs.head? ≠ some '/')
      (hhere : ∀ rest, cs = '.' :: rest → ¬ EndsPiece rest) : Opens cs [] cs

theorem opens (cs : List Char) : Opens cs (opening cs).2.1 (opening cs).2.2 := by
  unfold opening
  split
  · exact .root _
  · exact .here endsPiece_nil
  · exact .here endsPiece_slash
  · rename_i hroot hdot hslash
    refine .plain ?_ ?_
    · intro hhead
      obtain ⟨rest, rfl⟩ := List.head?_eq_some_iff.mp hhead
      exact hroot rest rfl
    · rintro rest rfl hends
      cases rest with
      | nil => exact hdot rfl
      | cons c rest =>
          obtain rfl : c = '/' := hends c rfl
          exact hslash rest rfl

/-- A text opens in one way only. -/
theorem Opens.unique {first first' : List Component} {rest rest' : List Char}
    (h : Opens cs first rest) (h' : Opens cs first' rest') : first = first' ∧ rest = rest' := by
  cases h with
  | root rest =>
      cases h' with
      | root => exact ⟨rfl, rfl⟩
      | plain hroot => exact absurd rfl hroot
  | here hends =>
      cases h' with
      | here => exact ⟨rfl, rfl⟩
      | plain _ hhere => exact absurd hends (hhere _ rfl)
  | plain hroot hhere =>
      cases h' with
      | root => exact absurd rfl hroot
      | here hends => exact absurd hends (hhere _ rfl)
      | plain => exact ⟨rfl, rfl⟩

theorem exists_opens (p : Path) : ∃ first rest, Opens p.text.toList first rest :=
  ⟨_, _, opens _⟩

/-- The components of a path are what its text opens with and the steps of the rest. -/
theorem Opens.components {p : Path} {first : List Component} {rest : List Char}
    (h : Opens p.text.toList first rest) : p.components = first ++ steps rest := by
  obtain ⟨hfirst, hrest⟩ := (opens p.text.toList).unique h
  rw [← hfirst, ← hrest]
  rfl

theorem Opens.first_cases {first : List Component} {rest : List Char} (h : Opens cs first rest) :
    first = [] ∨ first = [.root] ∨ first = [.here] := by
  cases h <;> simp

/-- What follows a slash does not matter for how a text opens. -/
theorem Opens.append_slash {first : List Component} {rest : List Char} (h : Opens xs first rest)
    (hxs : xs ≠ []) : Opens (xs ++ '/' :: ys) first (rest ++ '/' :: ys) := by
  have hends : ∀ rest, EndsPiece (rest ++ '/' :: ys) ↔ EndsPiece rest := by
    intro rest
    cases rest with
    | nil => exact iff_of_true endsPiece_slash endsPiece_nil
    | cons c rest => exact Iff.rfl
  cases h with
  | root rest => exact .root _
  | here h => exact .here ((hends _).mpr h)
  | plain hroot hhere =>
      obtain ⟨c, xs, rfl⟩ := List.exists_cons_of_ne_nil hxs
      refine .plain hroot ?_
      rintro rest heq hrest
      injection heq with hc heq
      subst hc heq
      exact hhere _ rfl ((hends _).mp hrest)

/-! ## Reading components back -/

/-- Components as they are spelled after another one. -/
def spellAfter (ps : List Component) : List Char := if ps = [] then [] else '/' :: (spell ps).toList

theorem endsPiece_spellAfter (ps : List Component) : EndsPiece (spellAfter ps) := by
  rw [spellAfter]
  split
  · exact endsPiece_nil
  · exact endsPiece_slash

theorem toList_spell_cons (c : Component) (ps : List Component) :
    (spell (c :: ps)).toList = c.text.toList ++ spellAfter ps := by
  cases ps <;> simp [spell, spellAfter, String.toList_append]

/-- Steps can be read back from their spelling. -/
theorem steps_spell {ps : List Component} (h : ∀ c ∈ ps, c.IsStep) :
    steps (spell ps).toList = ps := by
  induction ps with
  | nil => rfl
  | cons c ps ih =>
      have hstep := h c List.mem_cons_self
      have hread := ih fun c hc => h c (List.mem_cons_of_mem _ hc)
      rw [toList_spell_cons, steps_append_of_endsPiece hstep.slashless (endsPiece_spellAfter ps),
        hstep.component?_text, spellAfter]
      by_cases hnil : ps = [] <;> simp [hnil, hread]

theorem steps_spellAfter {ps : List Component} (h : ∀ c ∈ ps, c.IsStep) :
    steps (spellAfter ps) = ps := by
  rw [spellAfter]
  by_cases hnil : ps = []
  · rw [if_pos hnil, hnil, steps_nil]
  · rw [if_neg hnil, steps_slash, steps_spell h]

/-- A spelling of steps opens with none of the other components. -/
theorem opens_spell {ps : List Component} (h : ∀ c ∈ ps, c.IsStep) :
    Opens (spell ps).toList [] (spell ps).toList := by
  cases ps with
  | nil => exact .plain (by decide) (by rintro rest ⟨⟩)
  | cons c rest =>
      have hstep := h c List.mem_cons_self
      obtain ⟨a, text, htext⟩ := List.exists_cons_of_ne_nil hstep.text_ne_nil
      have hslashless := hstep.slashless
      rw [htext, List.mem_cons, not_or] at hslashless
      rw [toList_spell_cons, htext]
      -- the first piece is neither empty nor a single dot
      refine .plain ?_ ?_
      · intro hhead
        injection hhead with hhead
        exact hslashless.1 hhead.symm
      · rintro tail heq htail
        injection heq with ha heq
        cases text with
        | nil => exact hstep.text_ne_dot (by rw [htext, ha])
        | cons b text =>
            obtain rfl : b = '/' := htail b (by rw [← heq]; rfl)
            exact hslashless.2 List.mem_cons_self

theorem components_spell_steps {ps : List Component} (h : ∀ c ∈ ps, c.IsStep) :
    (Path.mk (spell ps)).components = ps := by
  have hopens : Opens (Path.mk (spell ps)).text.toList [] (spell ps).toList := opens_spell h
  rw [hopens.components, steps_spell h, List.nil_append]

/-- The components of a path can be read back from their spelling. -/
theorem components_spell (p : Path) : (Path.mk (spell p.components)).components = p.components := by
  obtain ⟨first, rest, hopens⟩ := exists_opens p
  rw [hopens.components]
  have hsteps : ∀ c ∈ steps rest, c.IsStep := fun c => isStep_of_mem_steps
  generalize steps rest = ps at hsteps ⊢
  rcases hopens.first_cases with rfl | rfl | rfl
  · exact components_spell_steps hsteps
  · have hread : Opens (Path.mk (spell (.root :: ps))).text.toList [.root] (spellAfter ps) := by
      rw [toList_spell_cons]
      exact .root _
    exact hread.components.trans (congrArg _ (steps_spellAfter hsteps))
  · have hread : Opens (Path.mk (spell (.here :: ps))).text.toList [.here] (spellAfter ps) := by
      rw [toList_spell_cons]
      exact .here (endsPiece_spellAfter ps)
    exact hread.components.trans (congrArg _ (steps_spellAfter hsteps))

/-! ## Kinds of paths -/

/-- What the components of a path are, by whether it is absolute. -/
inductive Shape : Bool → List Component → Prop where
  | absolute {ps : List Component} (steps : ∀ c ∈ ps, c.IsStep) : Shape true (.root :: ps)
  | dotted {ps : List Component} (steps : ∀ c ∈ ps, c.IsStep) : Shape false (.here :: ps)
  | plain {ps : List Component} (steps : ∀ c ∈ ps, c.IsStep) : Shape false ps

theorem shape (p : Path) : Shape p.isAbsolute p.components := by
  obtain ⟨first, rest, hopens⟩ := exists_opens p
  have hsteps : ∀ c ∈ steps rest, c.IsStep := fun c => isStep_of_mem_steps
  rw [hopens.components, isAbsolute]
  generalize p.text.toList = cs at hopens ⊢
  cases hopens with
  | root => exact .absolute hsteps
  | here => exact .dotted hsteps
  | plain hroot =>
      rw [decide_eq_false hroot]
      exact .plain hsteps

variable {b : Bool} {ps : List Component}

theorem Shape.head?_iff (h : Shape b ps) : ps.head? = some .root ↔ b = true := by
  cases h with
  | absolute => simp
  | dotted => simp
  | plain hsteps =>
      refine iff_of_false (fun hhead => ?_) (by simp)
      exact (hsteps _ (List.mem_of_head? hhead)).ne_root rfl

/-- Whether a path is absolute can be read off its components. -/
theorem isAbsolute_congr {p q : Path} (h : p.components = q.components) :
    p.isAbsolute = q.isAbsolute := by
  rw [Bool.eq_iff_iff, ← p.shape.head?_iff, ← q.shape.head?_iff, h]

/-- Whatever stands behind the first component is a step. -/
theorem Shape.isStep_of_mem_tail (h : Shape b ps) : ∀ c ∈ ps.tail, c.IsStep := by
  cases h with
  | absolute hsteps => exact hsteps
  | dotted hsteps => exact hsteps
  | plain hsteps => exact fun c hc => hsteps c (List.mem_of_mem_tail hc)

/-- Only the empty path has no components. -/
theorem text_eq_of_components_eq_nil {p : Path} (h : p.components = []) : p.text = "" := by
  rw [← String.toList_eq_nil_iff]
  obtain ⟨first, rest, hopens⟩ := exists_opens p
  obtain ⟨hfirst, hsteps⟩ := List.append_eq_nil_iff.mp (hopens.components.symm.trans h)
  subst hfirst
  generalize p.text.toList = cs at hopens ⊢
  obtain ⟨piece, rest, hcs, hpiece, hends⟩ := exists_piece cs
  cases hopens with
  | plain hroot hhere =>
      subst hcs
      rw [steps_append_of_endsPiece hpiece hends, List.append_eq_nil_iff] at hsteps
      rcases component?_eq_none_iff.mp (by simpa using hsteps.1) with rfl | rfl
      · cases rest with
        | nil => rfl
        | cons c rest => exact absurd (congrArg some (hends c rfl)) hroot
      · exact absurd hends (hhere rest rfl)

/-! ## Joined paths -/

theorem filter_ne_here {ps : List Component} (h : ∀ c ∈ ps, c.IsStep) :
    ps.filter (· ≠ .here) = ps := by
  rw [List.filter_eq_self]
  intro c hc
  simpa using (h c hc).ne_here

/-- The components of a relative path but for a leading dot are the steps of its text. -/
theorem filter_components {p : Path} (h : p.isAbsolute = false) :
    p.components.filter (· ≠ .here) = steps p.text.toList := by
  obtain ⟨first, rest, hopens⟩ := exists_opens p
  rw [hopens.components, List.filter_append, filter_ne_here fun c => isStep_of_mem_steps]
  rw [isAbsolute] at h
  generalize p.text.toList = cs at h hopens
  cases hopens with
  | root => simp at h
  | here hends =>
      show steps _ = steps (['.'] ++ _)
      rw [steps_append_of_endsPiece (by decide) hends]
      rfl
  | plain => rfl

/-- Whatever stands before a slash, the steps behind it come last. -/
theorem components_append_slash {p q : Path} {xs ys : List Char} (hp : p.text.toList = xs ++ ['/'])
    (hq : q.text.toList = xs ++ '/' :: ys) : q.components = p.components ++ steps ys := by
  cases xs with
  | nil =>
      -- the slash is no separator here but the root
      have hopens : Opens p.text.toList [.root] [] := hp ▸ .root []
      have hopens' : Opens q.text.toList [.root] ys := hq ▸ .root ys
      rw [hopens.components, hopens'.components, steps_nil, List.append_nil]
  | cons c xs =>
      obtain ⟨first, rest, hopens⟩ : ∃ first rest, Opens (c :: xs) first rest := ⟨_, _, opens _⟩
      have hopens' : Opens p.text.toList first (rest ++ '/' :: []) :=
        hp ▸ hopens.append_slash (List.cons_ne_nil c xs)
      have hopens'' : Opens q.text.toList first (rest ++ '/' :: ys) :=
        hq ▸ hopens.append_slash (List.cons_ne_nil c xs)
      rw [hopens'.components, hopens''.components, steps_append_slash, steps_append_slash,
        steps_nil, List.append_nil, List.append_assoc]

/-- A relative path adds its components to those of the base, but for a leading dot. -/
theorem components_join {base right : Path} (hbase : base.text ≠ "")
    (hright : right.isAbsolute = false) :
    (base.join right).components = base.components ++ right.components.filter (· ≠ .here) := by
  rw [filter_components hright, join, if_neg (by simp [hright])]
  by_cases hslash : base.text.toList.getLast? = some '/'
  · obtain ⟨xs, hxs⟩ := List.getLast?_eq_some_iff.mp hslash
    rw [if_pos (Or.inr hslash)]
    exact components_append_slash hxs (by simp [String.toList_append, hxs])
  · have hne : base.text.toList ≠ [] := fun hnil => hbase (String.toList_eq_nil_iff.mp hnil)
    rw [if_neg (by simp [hbase, hslash])]
    obtain ⟨first, rest, hopens⟩ := exists_opens base
    have hjoined : Opens (Path.mk (base.text ++ "/" ++ right.text)).text.toList first
        (rest ++ '/' :: right.text.toList) := by
      have htext : (base.text ++ "/" ++ right.text).toList =
          base.text.toList ++ '/' :: right.text.toList := by
        simp [String.toList_append]
      rw [htext]
      exact hopens.append_slash hne
    rw [hopens.components, hjoined.components, steps_append_slash, List.append_assoc]

theorem text_ne_of_isAbsolute {p : Path} (h : p.isAbsolute = true) : p.text ≠ "" := by
  intro htext
  rw [show p = ⟨""⟩ from congrArg Path.mk htext] at h
  cases h

theorem isAbsolute_join {base right : Path} (hbase : base.isAbsolute = true)
    (hright : right.isAbsolute = false) : (base.join right).isAbsolute = true := by
  obtain ⟨ps, hps⟩ := List.head?_eq_some_iff.mp (base.shape.head?_iff.mpr hbase)
  rw [← (base.join right).shape.head?_iff, components_join (text_ne_of_isAbsolute hbase) hright, hps]
  rfl

theorem join_of_isAbsolute {base right : Path} (h : right.isAbsolute = true) :
    base.join right = right := by
  rw [join, if_pos h]

theorem join_of_text_eq {base right : Path} (h : base.text = "") : base.join right = right := by
  rw [join]
  split
  · rfl
  · rw [if_pos (Or.inl h), h, String.empty_append]

/-! ## Paths below a base -/

theorem stripComponents?_eq_some_iff {base cs rest : List Component} :
    stripComponents? base cs = some rest ↔ cs = base ++ rest := by
  induction base generalizing cs with
  | nil => simp [stripComponents?]
  | cons b base ih =>
      cases cs with
      | nil => simp [stripComponents?]
      | cons c cs =>
          by_cases hbc : b = c
          · simp [stripComponents?, hbc, ih]
          · simp [stripComponents?, hbc, Ne.symm hbc]

/-- What is left of a path once a base has been stripped. -/
theorem relativeTo?_eq_some_iff {p base : Path} {rest : List Component} :
    p.relativeTo? base = some rest ↔ p.components = base.components ++ rest :=
  stripComponents?_eq_some_iff

/-- Nothing is left of a path that does not lie below the base. -/
theorem relativeTo?_eq_none_iff {p base : Path} :
    p.relativeTo? base = none ↔ ¬ base.components <+: p.components := by
  constructor
  · rintro h ⟨rest, hrest⟩
    rw [relativeTo?_eq_some_iff.mpr hrest.symm] at h
    cases h
  · intro h
    cases hp : p.relativeTo? base with
    | none => rfl
    | some rest => exact absurd ⟨rest, (relativeTo?_eq_some_iff.mp hp).symm⟩ h

/-- What is left of a path below a base that says something are steps. -/
theorem isStep_of_below {p base : Path} {rest : List Component} (hbase : base.text ≠ "")
    (h : p.components = base.components ++ rest) : ∀ c ∈ rest, c.IsStep := by
  obtain ⟨b, bs, hcomponents⟩ :=
    List.exists_cons_of_ne_nil (mt text_eq_of_components_eq_nil hbase)
  intro c hc
  apply p.shape.isStep_of_mem_tail
  rw [h, hcomponents]
  exact List.mem_append_right bs hc

/-- What is left of a path below a base leads from the base to the path again. -/
theorem components_join_spell {p base : Path} {rest : List Component}
    (h : p.components = base.components ++ rest) :
    (base.join ⟨spell rest⟩).components = p.components := by
  by_cases hbase : base.text = ""
  -- everything lies below the empty path, absolute paths and those with a dot in front included
  · have hnil : base.components = [] := by
      rw [show base = ⟨""⟩ from congrArg Path.mk hbase]
      rfl
    rw [hnil, List.nil_append] at h
    rw [join_of_text_eq hbase, ← h, components_spell]
  · have hsteps := isStep_of_below hbase h
    have hread : (Path.mk (spell rest)).components = rest := components_spell_steps hsteps
    have hrelative : (Path.mk (spell rest)).isAbsolute = false := by
      rw [← Bool.not_eq_true, ← (Path.mk (spell rest)).shape.head?_iff, hread]
      intro hhead
      exact (hsteps _ (List.mem_of_head? hhead)).ne_root rfl
    rw [components_join hbase hrelative, hread, filter_ne_here hsteps, h]

end Path

end VulkanWire
