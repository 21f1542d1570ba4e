import VulkanWire.Proofs.Generator.Telling

/-!
# Playing passages

A generator plays a passage by opening guards, telling the selected emitters of
its cues and closing the guards again. If the selection is the one that the
passage asks for, every module has then taken the pieces of the passage that
its own emitters contribute, and nothing else. `Performed` says this for lists
of passages, so that playing one list after another is playing both.

## Main results

* `performed_play` — playing a passage adds its pieces to every module.
* `Performed.trans` — playing lists of passages one after the other.
* `admitted_selects` — the emitters a decision admits are those its passage
  asks for.
-/

namespace VulkanWire.Generator

variable {ε : Type}

/-! ## Selections -/

/-- A selection of bound emitters, numbered from `k` on, that a test on emitters decides. -/
def Selects (selected : Nat → Bool) (k : Nat) (bs : List (BoundEmitter ε)) (test : ε → Bool) :
    Prop :=
  ∀ i b, bs[i]? = some b → selected (k + i) = test b.emitter

variable {selected : Nat → Bool} {k : Nat} {b : BoundEmitter ε} {bs : List (BoundEmitter ε)}
  {test : ε → Bool}

theorem Selects.head (h : Selects selected k (b :: bs) test) : selected k = test b.emitter :=
  h 0 b rfl

theorem Selects.tail (h : Selects selected k (b :: bs) test) : Selects selected (k + 1) bs test := by
  intro i b' hb
  have hnext := h (i + 1) b' hb
  rwa [Nat.add_comm i 1, ← Nat.add_assoc] at hnext

/-- The selected emitters of a module are those of its emitters that pass the test. -/
theorem Selects.chosenAt_eq (h : Selects selected k bs test) (place : Nat) :
    chosenAt selected place k bs = (emittersAt place bs).filter test := by
  induction bs generalizing k with
  | nil => rfl
  | cons b bs ih =>
      have hhead := h.head
      have htail := ih h.tail
      by_cases hs : selected k = true
      · rw [chosenAt_cons_of_selected hs, emittersAt_cons, htail]
        rw [hs] at hhead
        by_cases hp : b.place = place
        · simp only [hp, if_true]
          rw [List.filter_cons_of_pos hhead.symm]
        · simp only [hp, if_false]
      · have hf : selected k = false := by simpa using hs
        rw [chosenAt_cons_of_not_selected hf, emittersAt_cons, htail]
        rw [hf] at hhead
        by_cases hp : b.place = place
        · simp only [hp, if_true]
          rw [List.filter_cons_of_neg (by simp [← hhead])]
        · simp only [hp, if_false]

/-- A change of bound emitters that keeps their places acts on the emitters of each module. -/
theorem emittersAt_map {F : BoundEmitter ε → BoundEmitter ε} {f : ε → ε}
    (hplace : ∀ b, (F b).place = b.place) (hemitter : ∀ b, (F b).emitter = f b.emitter)
    (place : Nat) (bs : List (BoundEmitter ε)) :
    emittersAt place (bs.map F) = (emittersAt place bs).map f := by
  induction bs with
  | nil => rfl
  | cons b bs ih =>
      rw [List.map_cons, emittersAt_cons, emittersAt_cons, hplace, hemitter, ih]
      by_cases hp : b.place = place <;> simp [hp]

theorem everyone_selects (bs : List (BoundEmitter ε)) :
    Selects (fun _ => true) 0 bs (fun _ => true) := fun _ _ _ => rfl

variable [Emitter ε] {st : Stage ε}

/-- Where a test decides the selection, each emitter of a module advances by its own test. -/
theorem Selects.emittersAt_tellAll (h : Selects selected 0 st.bound test) (cues : List Cue)
    (place : Nat) :
    emittersAt place (st.tellAll selected cues).bound =
      (emittersAt place st.bound).map fun e =>
        if test e then cues.foldl (fun e c => c.after e) e else e := by
  have hmap : (st.tellAll selected cues).bound =
      st.bound.map fun b =>
        if test b.emitter then cues.foldl (fun b c => hear c b) b else b := by
    rw [Stage.bound_tellAll]
    apply List.ext_getElem?
    intro i
    simp only [List.getElem?_mapIdx, List.getElem?_map]
    cases hb : st.bound[i]? with
    | none => rfl
    | some b =>
        have hi := h i b hb
        rw [Nat.zero_add] at hi
        simp only [Option.map_some, hi]
  rw [hmap]
  apply emittersAt_map
  · intro b
    split <;> simp [Stage.hearAll_eq]
  · intro b
    split <;> simp [Stage.hearAll_eq]

/-- The emitters that a decision admits are selected by their kind. -/
theorem admitted_selects (g : Generator ε) (d : FeatureDecision) :
    Selects (fun i => (g.admitted d).contains i) 0 g.bound
      (fun e => d.admits (Emitter.kind e)) := by
  intro i b hb
  obtain ⟨hi, rfl⟩ := List.getElem?_eq_some_iff.mp hb
  rw [Nat.zero_add, Bool.eq_iff_iff]
  simp [admitted, hi]

/-! ## What playing a passage leaves -/

/-- What a stage has become once its modules and emitters have performed passages. -/
structure Performed (ps : List Passage) (st st' : Stage ε) : Prop where
  modules : st'.modules = st.modules.mapIdx fun place m =>
    m.take (Piece.texts (performance m.usesGuards ps (emittersAt place st.bound)))
  emitters : ∀ place, emittersAt place st'.bound =
    (emittersAt place st.bound).map fun e => ps.foldl (fun e p => p.advance e) e

/-- Without passages, nothing changes. -/
theorem Performed.refl (st : Stage ε) : Performed [] st st where
  modules := by
    apply List.ext_getElem?
    intro i
    simp [performance]
  emitters := by
    intro place
    simp

/-- Passages performed one list after the other are performed as one list. -/
theorem Performed.trans {ps qs : List Passage} {st st' st'' : Stage ε} (h : Performed ps st st')
    (h' : Performed qs st' st'') : Performed (ps ++ qs) st st'' where
  modules := by
    rw [h'.modules, h.modules, List.mapIdx_mapIdx]
    congr 1
    funext place m
    rw [Function.comp_apply, OutputModule.take_take, OutputModule.usesGuards_take, h.emitters,
      performance_append, Piece.texts_append]
  emitters := by
    intro place
    rw [h'.emitters, h.emitters]
    simp only [List.map_map, Function.comp_def, List.foldl_append]

namespace Stage

/-- A stage with every module changed. -/
def mapModules (st : Stage ε) (f : OutputModule → OutputModule) : Stage ε :=
  { st with modules := st.modules.map f }

/-- A stage after a passage for the selected emitters. -/
def play (st : Stage ε) (selected : Nat → Bool) (p : Passage) : Stage ε :=
  ((st.mapModules fun m => m.take (Piece.texts (p.opening m.usesGuards))).tellAll selected
    p.cues).mapModules fun m => m.take (Piece.texts (p.closing m.usesGuards))

end Stage

/-- Playing a passage adds to every module the pieces that its emitters contribute. -/
theorem performed_play (st : Stage ε) (p : Passage)
    (h : Selects selected 0 st.bound (p.admits ·)) : Performed [p] st (st.play selected p) where
  modules := by
    simp only [Stage.play, Stage.mapModules, Stage.modules_tellAll]
    apply List.ext_getElem?
    intro place
    simp only [List.getElem?_map, List.getElem?_mapIdx, Option.map_map, performance,
      List.append_nil, Passage.pieces, Piece.texts_append, h.chosenAt_eq]
    congr 1
    funext m
    simp only [Function.comp_apply, OutputModule.take_take, OutputModule.usesGuards_take]
  emitters := by
    intro place
    have hopened : Selects selected 0
        (st.mapModules fun m => m.take (Piece.texts (p.opening m.usesGuards))).bound
        (p.admits ·) := h
    exact hopened.emittersAt_tellAll p.cues place

end VulkanWire.Generator
