import VulkanWire.Proofs.Generator.Hearing
import VulkanWire.Proofs.Output.Conditional

/-!
# Who says what under which guard

A module with guards is source made of blocks: one for each passage of the
script, inside the guard of its feature. In a block the emitters of the module
answer in turn, so it holds utterances of many speakers. Reading the source
finds the guard of every utterance, and the utterances of one speaker, with
their guards, are what that emitter says when it is alone.

## Main definitions

* `Utterance` — an answer with the place of the emitter that gives it.
* `OutputModule.source` — the lines of a module with guards.
* `voice` — what one speaker says, with the guards it is said under.
* `monologue` — what an emitter says alone.
* `Remarks` — what an emitter says to cues, and what becomes of it.

## Main results

* `OutputModule.texts_pieces` — the text of a module is that of its lines.
* `OutputModule.voice_source` — a speaker says in a module what it says alone.
-/

namespace VulkanWire

/-! ## Utterances -/

/-- An answer, with the place of the emitter that gives it among those of its module. -/
structure Utterance where
  speaker : Nat
  text : Emission
deriving DecidableEq, Repr

/-- The text of lines in both files. -/
def sourceEmission (ls : List (SourceLine Utterance)) : Emission :=
  ⟨sourceText (·.text.header) ls, sourceText (·.text.implementation) ls⟩

/-- The feature in whose guard a passage stands. -/
def Passage.guard? : Passage → Option String
  | everyone _ => none
  | feature name _ _ => some name

/-- What a speaker says, silence left out, with the guards that it is said under. -/
def voice (speaker : Nat) (placed : List (Option String × Utterance)) :
    List (Option String × Emission) :=
  placed.filterMap fun p =>
    if p.2.speaker = speaker ∧ p.2.text ≠ .silent then some (p.1, p.2.text) else none

section Speaking

variable {ε : Type} [Emitter ε]

/-- The answers of numbered emitters to cues. -/
def utterances : List Cue → List (ε × Nat) → List Utterance
  | [], _ => []
  | c :: cues, es =>
    es.map (fun e => ⟨e.2, c.answer e.1⟩) ++ utterances cues (es.map fun e => (c.after e.1, e.2))

/-- What numbered emitters say in a passage. -/
def Passage.block (p : Passage) (es : List (ε × Nat)) : Block Utterance :=
  ⟨p.guard?, utterances p.cues (es.filter (p.admits ·.1))⟩

/-- What numbered emitters say in passages. -/
def blocks : List Passage → List (ε × Nat) → List (Block Utterance)
  | [], _ => []
  | p :: ps, es => p.block es :: blocks ps (es.map fun e => (p.advance e.1, e.2))

/-- What an emitter answers to cues, silence left out. -/
def remarks (cues : List Cue) (e : ε) : List Emission :=
  ((recital cues [e]).map (·.text)).filter (· ≠ .silent)

/-- What an emitter says in passages when it is alone, with the guards that it is said under. -/
def monologue : List Passage → ε → List (Option String × Emission)
  | [], _ => []
  | p :: ps, e =>
    (remarks (p.heard (Emitter.kind e)) e).map (p.guard?, ·) ++ monologue ps (p.advance e)

namespace OutputModule

/-- The lines of a module with guards, once the emitters bound to it have performed a script. -/
def source (m : OutputModule) (gate : FeatureGate) (s : Schema) (bindings : List (Binding ε)) :
    List (SourceLine Utterance) :=
  (blocks (s.script gate) (Generator.boundTo m.name bindings).zipIdx).flatMap Block.lines

end OutputModule

/-! ## The text of a module -/

theorem sourceEmission_append (ls ls' : List (SourceLine Utterance)) :
    sourceEmission (ls ++ ls') = sourceEmission ls ++ sourceEmission ls' :=
  Emission.eq_of (sourceText_append _ ls ls') (sourceText_append _ ls ls')

theorem sourceEmission_code (us : List Utterance) :
    sourceEmission (us.map .code) = .concat (us.map (·.text)) := by
  have hview : ∀ view : Emission → String,
      sourceText (fun u : Utterance => view u.text) (us.map .code) =
        String.join ((us.map (·.text)).map view) := by
    intro view
    rw [sourceText_code, List.map_map]
    rfl
  exact Emission.eq_of (hview (·.header)) (hview (·.implementation))

/-- The utterances of emitters have the text of their recital. -/
theorem map_text_utterances (cues : List Cue) (es : List (ε × Nat)) :
    (utterances cues es).map (·.text) = (recital cues (es.map (·.1))).map (·.text) := by
  induction cues generalizing es with
  | nil => rfl
  | cons c cues ih =>
      rw [utterances, recital, List.map_append, List.map_append, ih]
      simp only [List.map_map, Function.comp_def]

/-- A block has the text of its passage, guard included. -/
theorem sourceEmission_block (p : Passage) (es : List (ε × Nat)) :
    sourceEmission (p.block es).lines = Piece.texts (p.pieces true (es.map (·.1))) := by
  have hsaid : sourceEmission ((p.block es).items.map .code) =
      Piece.texts (recital p.cues ((es.map (·.1)).filter (p.admits ·))) := by
    rw [sourceEmission_code, Passage.block, map_text_utterances, Piece.texts, List.filter_map]
    rfl
  rw [Passage.pieces, Piece.texts_append, Piece.texts_append, ← hsaid]
  cases p with
  | everyone c =>
      show sourceEmission _ = Piece.texts [] ++ sourceEmission _ ++ Piece.texts []
      rw [Piece.texts_nil, Emission.silent_append, Emission.append_silent]
      rfl
  | feature name decision cues =>
      have hguard : ∀ l : SourceLine Utterance, sourceEmission [l] =
          ⟨l.text (·.text.header) ++ "", l.text (·.text.implementation) ++ ""⟩ := fun l =>
        Emission.eq_of (sourceText_cons _ l []) (sourceText_cons _ l [])
      have hopening : Piece.texts ((Passage.feature name decision cues).opening true) =
          sourceEmission [.ifdef name] := by
        rw [hguard, Passage.opening, Piece.texts, List.map_singleton, Emission.concat_cons,
          Emission.concat_nil]
        rfl
      have hclosing : Piece.texts ((Passage.feature name decision cues).closing true) =
          sourceEmission [.endif] := by
        rw [hguard, Passage.closing, Piece.texts, List.map_singleton, Emission.concat_cons,
          Emission.concat_nil]
        rfl
      rw [hopening, hclosing, ← sourceEmission_append, ← sourceEmission_append,
        List.singleton_append]
      rfl

/-- What emitters perform under guards is the text of their blocks. -/
theorem texts_performance (ps : List Passage) (es : List (ε × Nat)) :
    Piece.texts (performance true ps (es.map (·.1))) =
      sourceEmission ((blocks ps es).flatMap Block.lines) := by
  induction ps generalizing es with
  | nil => exact Piece.texts_nil
  | cons p ps ih =>
      have hnext : (es.map (·.1)).map p.advance =
          (es.map fun e => (p.advance e.1, e.2)).map (·.1) := by
        simp only [List.map_map, Function.comp_def]
      rw [performance, Piece.texts_append, hnext, ih, ← sourceEmission_block, blocks,
        List.flatMap_cons, sourceEmission_append]

/-- The text of a module with guards is that of its lines. -/
theorem OutputModule.texts_pieces {m : OutputModule} (h : m.usesGuards = true) (gate : FeatureGate)
    (s : Schema) (bindings : List (Binding ε)) :
    Piece.texts (m.pieces gate s bindings) = sourceEmission (m.source gate s bindings) := by
  have hplaces : (Generator.boundTo m.name bindings).zipIdx.map (·.1) =
      Generator.boundTo m.name bindings := List.zipIdx_map_fst 0 _
  rw [OutputModule.pieces, OutputModule.source, h, ← texts_performance, hplaces]

/-! ## Which modules are suppressed -/

/-- After a run of an assembled generator, the suppressed modules are those declared besides the one
to keep, if there is one. -/
theorem Generator.suppressed_run {o : GeneratorOptions} {gate : FeatureGate}
    {specs : List ModuleSpec} {bindings : List (Binding ε)} {s : Schema} {g g' : Generator ε}
    (hg : assemble o gate specs bindings = .ok g) (hs : s.validate = .ok ()) {d d' : Disk}
    {result : Except GenerationFault GenerationReport}
    (hrun : (g.run s : OnDisk _).run d = ((result, g'), d')) :
    g'.modules.map (·.suppressed) = specs.map fun spec => o.suppressExcept.any (spec.name ≠ ·) := by
  obtain ⟨hsound, rfl⟩ := assemble_eq_ok_iff.mp hg
  obtain ⟨bound, hends⟩ := run_assembled hsound hs
  obtain ⟨report, d'', hdeliver⟩ := exists_deliver (concluded o gate specs bindings s bound) d
  rw [hends hdeliver] at hrun
  obtain rfl : (concluded o gate specs bindings s bound).delivered = g' := congrArg (·.1.2) hrun
  simp only [delivered, concluded, List.map_map, Function.comp_def, OutputModule.suppressed_spent,
    OutputModule.suppressed_performed]
  cases o.suppressExcept with
  | none =>
      rw [suppress, List.map_map]
      rfl
  | some keep =>
      rw [suppress, List.map_map, List.map_map]
      rfl

/-! ## One speaker among others -/

variable {i : Nat} {e : ε}

theorem voice_append (i : Nat) (placed placed' : List (Option String × Utterance)) :
    voice i (placed ++ placed') = voice i placed ++ voice i placed' :=
  List.filterMap_append

/-- The answers of one emitter among others are those it gives alone. -/
theorem filter_utterances (cues : List Cue) (es : List (ε × Nat)) :
    (utterances cues es).filter (·.speaker = i) = utterances cues (es.filter (·.2 = i)) := by
  induction cues generalizing es with
  | nil => rfl
  | cons c cues ih =>
      rw [utterances, utterances, List.filter_append, ih, List.filter_map, List.filter_map]
      rfl

theorem utterances_nobody (cues : List Cue) : utterances cues ([] : List (ε × Nat)) = [] := by
  induction cues with
  | nil => rfl
  | cons c cues ih => exact ih

theorem utterances_singleton (cues : List Cue) (e : ε) :
    utterances cues [(e, i)] = (recital cues [e]).map fun p => ⟨i, p.text⟩ := by
  induction cues generalizing e with
  | nil => rfl
  | cons c cues ih =>
      rw [recital_singleton, List.map_cons, ← ih]
      rfl

/-- In a block, a speaker says the texts of its own utterances, all under the guard of the block. -/
theorem voice_placed (b : Block Utterance) :
    voice i b.placed =
      (((b.items.filter (·.speaker = i)).map (·.text)).filter (· ≠ .silent)).map (b.guard?, ·) := by
  obtain ⟨guard?, items⟩ := b
  rw [voice, Block.placed, List.filterMap_map, List.filter_map, List.filter_filter, List.map_map,
    ← List.filterMap_eq_map, List.filterMap_filter]
  congr 1
  funext u
  simp [and_comm]

/-- So it says what it says alone to the cues that its kind hears. -/
theorem voice_block {es : List (ε × Nat)} (h : es.filter (·.2 = i) = [(e, i)]) (p : Passage) :
    voice i (p.block es).placed =
      (remarks (p.heard (Emitter.kind e)) e).map (p.guard?, ·) := by
  have hspeaker : (p.block es).items.filter (·.speaker = i) =
      (recital (p.heard (Emitter.kind e)) [e]).map fun q => ⟨i, q.text⟩ := by
    rw [Passage.block, filter_utterances, List.filter_comm, h, Passage.heard,
      ← admits_eq_admitsKind]
    by_cases hadmits : p.admits e = true
    · rw [List.filter_cons_of_pos (by exact hadmits), if_pos hadmits]
      exact utterances_singleton p.cues e
    · rw [List.filter_cons_of_neg (by exact hadmits), if_neg hadmits]
      exact utterances_nobody p.cues
  rw [voice_placed, hspeaker, List.map_map]
  rfl

/-- Passage by passage, a speaker says among others what it says alone. -/
theorem voice_blocks (ps : List Passage) {es : List (ε × Nat)}
    (h : es.filter (·.2 = i) = [(e, i)]) :
    voice i ((blocks ps es).flatMap Block.placed) = monologue ps e := by
  induction ps generalizing e es with
  | nil => rfl
  | cons p ps ih =>
      have hnext : (es.map fun e => (p.advance e.1, e.2)).filter (·.2 = i) =
          [(p.advance e, i)] := by
        rw [List.filter_map]
        exact congrArg (List.map fun e : ε × Nat => (p.advance e.1, e.2)) h
      rw [blocks, List.flatMap_cons, voice_append, voice_block h, ih hnext, monologue]

omit [Emitter ε] in
/-- Among numbered emitters, counted on from `k`, there is one with each number. -/
theorem filter_zipIdx {es : List ε} (h : es[i]? = some e) (k : Nat) :
    (es.zipIdx k).filter (·.2 = k + i) = [(e, k + i)] := by
  induction es generalizing i k with
  | nil => cases h
  | cons e' es ih =>
      rw [List.zipIdx_cons]
      cases i with
      | zero =>
          injection h with h
          have hlater : (es.zipIdx (k + 1)).filter (·.2 = k) = [] := by
            rw [List.filter_eq_nil_iff]
            intro x hx
            have hle := List.le_snd_of_mem_zipIdx hx
            simp only [decide_eq_true_eq]
            omega
          rw [List.filter_cons_of_pos (by simp), Nat.add_zero, hlater, h]
      | succ i =>
          have hnumber : k + (i + 1) = k + 1 + i := by omega
          have hfirst : ¬ k = k + 1 + i := by omega
          rw [List.getElem?_cons_succ] at h
          rw [hnumber, List.filter_cons_of_neg (by simpa using hfirst), ih h]

/-- The lines of a module with guards can be read, and emitters say in them what they say alone. -/
theorem OutputModule.voice_source {m : OutputModule} (gate : FeatureGate) (s : Schema)
    {bindings : List (Binding ε)} (h : (Generator.boundTo m.name bindings)[i]? = some e) :
    ∃ placed, readGuarded none (m.source gate s bindings) = some placed ∧
      voice i placed = monologue (s.script gate) e :=
  ⟨_, readGuarded_blocks _, voice_blocks _ (by simpa using filter_zipIdx h 0)⟩

/-! ## What an emitter says alone -/

/-- Told of cues, an emitter says these texts and becomes another one. -/
structure Remarks (e : ε) (cues : List Cue) (texts : List Emission) (e' : ε) : Prop where
  texts : remarks cues e = texts
  after : cues.foldl (fun e c => c.after e) e = e'

namespace Remarks

variable {e' e'' : ε} {c : Cue} {cues cues' : List Cue} {texts texts' : List Emission}

theorem nil (e : ε) : Remarks e [] [] e := ⟨rfl, rfl⟩

theorem append (h : Remarks e cues texts e') (h' : Remarks e' cues' texts' e'') :
    Remarks e (cues ++ cues') (texts ++ texts') e'' where
  texts := by
    rw [remarks, recital_append, List.map_append, List.filter_append, h.after, ← h.texts,
      ← h'.texts]
    rfl
  after := by rw [List.foldl_append, h.after, h'.after]

theorem silent (htext : c.answer e = .silent) (hafter : c.after e = e')
    (h : Remarks e' cues texts e'') : Remarks e (c :: cues) texts e'' where
  texts := by
    rw [remarks, recital_singleton, List.map_cons, List.filter_cons_of_neg (by simpa using htext),
      hafter, ← h.texts]
    rfl
  after := by rw [List.foldl_cons, hafter, h.after]

theorem cons {text : Emission} (htext : c.answer e = text) (hspoken : text ≠ .silent)
    (hafter : c.after e = e') (h : Remarks e' cues texts e'') :
    Remarks e (c :: cues) (text :: texts) e'' where
  texts := by
    subst htext
    rw [remarks, recital_singleton, List.map_cons, List.filter_cons_of_pos (by simpa using hspoken),
      hafter, ← h.texts]
    rfl
  after := by rw [List.foldl_cons, hafter, h.after]

end Remarks

theorem monologue_append (ps ps' : List Passage) (e : ε) :
    monologue (ps ++ ps') e =
      monologue ps e ++ monologue ps' (ps.foldl (fun e p => p.advance e) e) := by
  induction ps generalizing e with
  | nil => rfl
  | cons p ps ih =>
      rw [List.cons_append, monologue, monologue, ih, List.foldl_cons, List.append_assoc]

theorem monologue_everyone {c : Cue} {texts : List Emission} {e' : ε}
    (h : Remarks e [c] texts e') (ps : List Passage) :
    monologue (.everyone c :: ps) e = texts.map (none, ·) ++ monologue ps e' := by
  rw [monologue, advance_eq_foldl, show (Passage.everyone c).heard (Emitter.kind e) = [c] from rfl,
    h.texts, h.after]
  rfl

/-- In a feature that admits its kind, an emitter speaks under the guard of that feature. -/
theorem monologue_featurePassages_cons {gate : FeatureGate} {f : Feature} {r : Registry}
    (fs : List Feature) (hadmits : (gate.evaluate f.name).admits (Emitter.kind e) = true)
    {texts : List Emission} {e' : ε} (h : Remarks e (f.cues r) texts e') :
    monologue (featurePassages gate r (f :: fs)) e =
        texts.map (some f.name, ·) ++ monologue (featurePassages gate (r.through gate f) fs) e' ∧
      (featurePassages gate r (f :: fs)).foldl (fun e p => p.advance e) e =
        (featurePassages gate (r.through gate f) fs).foldl (fun e p => p.advance e) e' := by
  have hheard : (Passage.feature f.name (gate.evaluate f.name) (f.cues r)).heard
      (Emitter.kind e) = f.cues r := if_pos hadmits
  rw [featurePassages, if_pos (isSupported_of_admits hadmits), monologue, List.foldl_cons,
    advance_eq_foldl, hheard, h.texts, h.after]
  exact ⟨rfl, rfl⟩

/-- In a feature that does not admit its kind, an emitter neither speaks nor changes. -/
theorem monologue_featurePassages_cons_of_not {gate : FeatureGate} {f : Feature}
    (fs : List Feature) (r : Registry)
    (hadmits : ¬ (gate.evaluate f.name).admits (Emitter.kind e) = true) :
    monologue (featurePassages gate r (f :: fs)) e =
        monologue (featurePassages gate (r.through gate f) fs) e ∧
      (featurePassages gate r (f :: fs)).foldl (fun e p => p.advance e) e =
        (featurePassages gate (r.through gate f) fs).foldl (fun e p => p.advance e) e := by
  have hheard : (Passage.feature f.name (gate.evaluate f.name) (f.cues r)).heard
      (Emitter.kind e) = [] := if_neg hadmits
  rw [featurePassages]
  by_cases hs : gate.isSupported f.name = true
  · rw [if_pos hs, monologue, List.foldl_cons, advance_eq_foldl, hheard]
    exact ⟨rfl, rfl⟩
  · rw [if_neg hs]
    exact ⟨rfl, rfl⟩

end Speaking

end VulkanWire
