import VulkanWire.Proofs.Generator.Passage

/-!
# Telling emitters of a step

A generator tells its emitters of a step one after the other and appends what
each of them answers to the module it is bound to. Seen from one module, that
is a single emission: the answers of the selected emitters bound to it, in
binding order. Seen from one emitter, it is a single answer, whatever the
others do. Both views extend to any number of steps told to one selection.

## Main results

* `broadcastFrom_fst`, `broadcastFrom_snd` — one step, seen from the emitters
  and from the modules.
* `Stage.bound_tellAll`, `Stage.modules_tellAll` — the same for a list of cues.
-/

namespace VulkanWire.Generator

variable {ε : Type}

/-! ## Emitters by module -/

/-- The emitters bound to the module at a place, in binding order. -/
def emittersAt (place : Nat) (bs : List (BoundEmitter ε)) : List ε :=
  (bs.filter (·.place = place)).map (·.emitter)

/-- The selected emitters bound to the module at a place; emitters are numbered from `k` on. -/
def chosenAt (selected : Nat → Bool) (place k : Nat) (bs : List (BoundEmitter ε)) : List ε :=
  emittersAt place (((bs.zipIdx k).filter fun b => selected b.2).map (·.1))

variable {selected : Nat → Bool} {place k : Nat} {b : BoundEmitter ε} {bs : List (BoundEmitter ε)}

theorem emittersAt_cons :
    emittersAt place (b :: bs) =
      if b.place = place then b.emitter :: emittersAt place bs else emittersAt place bs := by
  by_cases h : b.place = place <;> simp [emittersAt, h]

theorem chosenAt_nil : chosenAt selected place k ([] : List (BoundEmitter ε)) = [] := rfl

theorem chosenAt_cons_of_selected (h : selected k = true) :
    chosenAt selected place k (b :: bs) =
      if b.place = place then b.emitter :: chosenAt selected place (k + 1) bs
      else chosenAt selected place (k + 1) bs := by
  simp only [chosenAt, List.zipIdx_cons, List.filter_cons, h, if_true, List.map_cons,
    emittersAt_cons]

theorem chosenAt_cons_of_not_selected (h : selected k = false) :
    chosenAt selected place k (b :: bs) = chosenAt selected place (k + 1) bs := by
  simp [chosenAt, List.zipIdx_cons, h]

variable [Emitter ε]

/-! ## One step -/

/-- A bound emitter after a cue. -/
def hear (c : Cue) (b : BoundEmitter ε) : BoundEmitter ε := { b with emitter := c.after b.emitter }

/-- A list of bound emitters, numbered from `k` on, after the selected ones have heard a cue. -/
def hearFrom (c : Cue) (selected : Nat → Bool) (k : Nat) (bs : List (BoundEmitter ε)) :
    List (BoundEmitter ε) :=
  bs.mapIdx fun i b => if selected (k + i) then hear c b else b

theorem hearFrom_cons (c : Cue) :
    hearFrom c selected k (b :: bs) =
      (if selected k then hear c b else b) :: hearFrom c selected (k + 1) bs := by
  simp only [hearFrom, List.mapIdx_cons, Nat.add_zero, Nat.add_assoc, Nat.add_comm 1]

/-- Every selected emitter has heard the step once; the others stand as they were. -/
theorem broadcastFrom_fst (c : Cue) (selected : Nat → Bool) (k : Nat)
    (bs : List (BoundEmitter ε)) (ms : List OutputModule) :
    (broadcastFrom c.registry c.callback selected k bs ms).1 = hearFrom c selected k bs := by
  induction bs generalizing k ms with
  | nil => rfl
  | cons b bs ih =>
      by_cases h : selected k = true
      · simp only [broadcastFrom, h, if_true, ih, hearFrom_cons]
        rfl
      · simp only [broadcastFrom, h, ih, hearFrom_cons]
        rfl

/-- Hearing a cue does not change which emitters are selected. -/
theorem chosenAt_hearFrom (c : Cue) :
    chosenAt selected place k (hearFrom c selected k bs) =
      (chosenAt selected place k bs).map c.after := by
  induction bs generalizing k with
  | nil => rfl
  | cons b bs ih =>
      rw [hearFrom_cons]
      by_cases h : selected k = true
      · simp only [chosenAt_cons_of_selected h, ih, h, if_true]
        by_cases hp : b.place = place
        · simp [hear, hp]
        · simp [hear, hp]
      · have hf : selected k = false := by simpa using h
        simp only [chosenAt_cons_of_not_selected hf, ih]

/-- Every module has taken one emission: the answers of its selected emitters. -/
theorem broadcastFrom_snd (c : Cue) (selected : Nat → Bool) (k : Nat)
    (bs : List (BoundEmitter ε)) (ms : List OutputModule) :
    (broadcastFrom c.registry c.callback selected k bs ms).2 =
      ms.mapIdx fun place m =>
        m.take (.concat ((chosenAt selected place k bs).map c.answer)) := by
  induction bs generalizing k ms with
  | nil =>
      apply List.ext_getElem?
      intro place
      simp [broadcastFrom, chosenAt_nil]
  | cons b bs ih =>
      by_cases h : selected k = true
      · simp only [broadcastFrom, h, if_true, ih]
        apply List.ext_getElem?
        intro place
        simp only [List.getElem?_mapIdx, List.getElem?_modify, chosenAt_cons_of_selected h]
        by_cases hp : b.place = place
        · -- The head's answer stands before those of the others in its module.
          simp only [hp, if_true, Option.map_eq_map, Option.map_map, List.map_cons,
            Emission.concat_cons, Function.comp_def, OutputModule.take_take]
          rfl
        · simp [hp]
      · have hf : selected k = false := by simpa using h
        simp only [broadcastFrom, hf, ih, chosenAt_cons_of_not_selected hf]
        rfl

/-! ## Many steps for one selection -/

/-- The part of a generator that a performance changes. -/
structure Stage (ε : Type) where
  bound : List (BoundEmitter ε)
  modules : List OutputModule

namespace Stage

/-- A stage whose selected emitters have been told of a cue. -/
def tell (selected : Nat → Bool) (st : Stage ε) (c : Cue) : Stage ε where
  bound := (broadcastFrom c.registry c.callback selected 0 st.bound st.modules).1
  modules := (broadcastFrom c.registry c.callback selected 0 st.bound st.modules).2

/-- A stage whose selected emitters have been told of cues in turn. -/
def tellAll (st : Stage ε) (selected : Nat → Bool) (cues : List Cue) : Stage ε :=
  cues.foldl (tell selected) st

variable (st : Stage ε) (selected : Nat → Bool) (cues : List Cue)

theorem tellAll_cons (c : Cue) :
    st.tellAll selected (c :: cues) = (tell selected st c).tellAll selected cues := rfl

theorem tellAll_append (cs ds : List Cue) :
    st.tellAll selected (cs ++ ds) = (st.tellAll selected cs).tellAll selected ds :=
  List.foldl_append

/-- A bound emitter keeps its place whatever it hears. -/
theorem hearAll_eq (b : BoundEmitter ε) :
    cues.foldl (fun b c => hear c b) b =
      { b with emitter := cues.foldl (fun e c => c.after e) b.emitter } := by
  induction cues generalizing b with
  | nil => rfl
  | cons c cues ih =>
      rw [List.foldl_cons, ih]
      rfl

/-- Every selected emitter has heard all cues; the others stand as they were. -/
theorem bound_tellAll :
    (st.tellAll selected cues).bound =
      st.bound.mapIdx fun i b => if selected i then cues.foldl (fun b c => hear c b) b else b := by
  induction cues generalizing st with
  | nil =>
      apply List.ext_getElem?
      intro i
      simp [tellAll]
  | cons c cues ih =>
      have hstep : (tell selected st c).bound =
          st.bound.mapIdx fun i b => if selected i then hear c b else b := by
        have h := broadcastFrom_fst c selected 0 st.bound st.modules
        simp only [hearFrom, Nat.zero_add] at h
        exact h
      rw [tellAll_cons, ih, hstep, List.mapIdx_mapIdx]
      congr 1
      funext i b
      by_cases h : selected i = true <;> simp [h]

/-- Every module has taken what its selected emitters answer to the cues. -/
theorem modules_tellAll :
    (st.tellAll selected cues).modules =
      st.modules.mapIdx fun place m =>
        m.take (Piece.texts (recital cues (chosenAt selected place 0 st.bound))) := by
  induction cues generalizing st with
  | nil =>
      apply List.ext_getElem?
      intro place
      simp [tellAll, recital]
  | cons c cues ih =>
      have hbound : (tell selected st c).bound = hearFrom c selected 0 st.bound :=
        broadcastFrom_fst c selected 0 st.bound st.modules
      have hmodules : (tell selected st c).modules =
          st.modules.mapIdx fun place m =>
            m.take (.concat ((chosenAt selected place 0 st.bound).map c.answer)) :=
        broadcastFrom_snd c selected 0 st.bound st.modules
      rw [tellAll_cons, ih, hmodules, hbound, List.mapIdx_mapIdx]
      congr 1
      funext place m
      rw [Function.comp_apply, chosenAt_hearFrom, texts_recital_cons, OutputModule.take_take]

end Stage

end VulkanWire.Generator
