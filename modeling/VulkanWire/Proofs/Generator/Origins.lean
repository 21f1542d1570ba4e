import VulkanWire.Proofs.Generator.Commands

/-!
# Where pieces come from

Apart from guards, every piece of a performance is an emitter's answer to a cue
of a passage that admits it, and every such cue is answered. A cue finds the
registry in the feature of its passage. So a kind that no restriction names says
nothing in a restricted feature, and it is told of exactly the definitions of
the others.

## Main results

* `exists_of_mem_performance` — every piece answers a cue of a passage that
  admits its emitter.
* `exists_mem_performance` — every cue of such a passage is answered.
* `restriction?_of_mem_script` — the features in which such a kind is told of
  anything.
* `exists_feature_of_told`, `exists_told` — the definitions that it is told of.
-/

namespace VulkanWire

/-! ## Where pieces come from -/

section Origins

variable {ε : Type} [Emitter ε]
  (hkind : ∀ (c : Cue) (e : ε), Emitter.kind (c.after e) = Emitter.kind e)
include hkind

theorem kind_foldl (cues : List Cue) (e : ε) :
    Emitter.kind (cues.foldl (fun e c => c.after e) e) = Emitter.kind e := by
  induction cues generalizing e with
  | nil => rfl
  | cons c cues ih => rw [List.foldl_cons, ih, hkind]

theorem kind_advance (p : Passage) (e : ε) : Emitter.kind (p.advance e) = Emitter.kind e := by
  rw [Passage.advance]
  split
  · exact kind_foldl hkind p.cues e
  · rfl

theorem exists_of_mem_recital {cues : List Cue} {e : ε} {p : Piece} {c : Cue}
    (hp : p ∈ recital cues [e]) (hc : p.cue? = some c) :
    c ∈ cues ∧ ∃ e' : ε, Emitter.kind e' = Emitter.kind e ∧ p.text = c.answer e' := by
  induction cues generalizing e with
  | nil => cases hp
  | cons c' cues ih =>
      rw [recital_singleton, List.mem_cons] at hp
      rcases hp with rfl | hp
      · injection hc with hc
        subst hc
        exact ⟨List.mem_cons_self, e, rfl, rfl⟩
      · obtain ⟨hmem, e', he', htext⟩ := ih hp
        exact ⟨List.mem_cons_of_mem _ hmem, e', he'.trans (hkind c' e), htext⟩

/-- A piece that answers a cue answers one of a passage that admits the emitter. -/
theorem exists_of_mem_performance {guarded : Bool} {ps : List Passage} {e : ε} {p : Piece} {c : Cue}
    (hp : p ∈ performance guarded ps [e]) (hc : p.cue? = some c) :
    ∃ q ∈ ps, c ∈ q.cues ∧ q.admitsKind (Emitter.kind e) = true ∧
      ∃ e' : ε, Emitter.kind e' = Emitter.kind e ∧ p.text = c.answer e' := by
  induction ps generalizing e with
  | nil => cases hp
  | cons q ps ih =>
      rw [performance, List.map_singleton, List.mem_append] at hp
      rcases hp with hhere | hlater
      · have hopening : p ∉ q.opening guarded := by
          intro hp
          cases q with
          | everyone c' => cases hp
          | feature name d cues =>
              rw [List.mem_singleton.mp hp] at hc
              cases hc
        have hclosing : p ∉ q.closing guarded := by
          intro hp
          cases q with
          | everyone c' => cases hp
          | feature name d cues =>
              rw [List.mem_singleton.mp hp] at hc
              cases hc
        rw [Passage.pieces, List.mem_append, List.mem_append] at hhere
        have hsaid : p ∈ recital q.cues ([e].filter (q.admits ·)) := by
          rcases hhere with (hp | hp) | hp
          · exact absurd hp hopening
          · exact hp
          · exact absurd hp hclosing
        by_cases hadmits : q.admitsKind (Emitter.kind e) = true
        · rw [List.filter_cons_of_pos (by rw [admits_eq_admitsKind, hadmits])] at hsaid
          obtain ⟨hmem, hanswer⟩ := exists_of_mem_recital hkind hsaid hc
          exact ⟨q, List.mem_cons_self, hmem, hadmits, hanswer⟩
        · rw [List.filter_cons_of_neg (by rwa [admits_eq_admitsKind]), List.filter_nil,
            recital_nobody] at hsaid
          cases hsaid
      · obtain ⟨q', hq', hmem, hadmits, e', he', htext⟩ := ih hlater
        rw [kind_advance hkind] at hadmits he'
        exact ⟨q', List.mem_cons_of_mem _ hq', hmem, hadmits, e', he', htext⟩

theorem exists_mem_recital {cues : List Cue} {c : Cue} (hc : c ∈ cues) (e : ε) :
    ∃ e' : ε, Emitter.kind e' = Emitter.kind e ∧ ⟨some c, c.answer e'⟩ ∈ recital cues [e] := by
  induction cues generalizing e with
  | nil => cases hc
  | cons c' cues ih =>
      rw [recital_singleton]
      rcases List.mem_cons.mp hc with rfl | hc
      · exact ⟨e, rfl, List.mem_cons_self⟩
      · obtain ⟨e', he', hmem⟩ := ih hc (c'.after e)
        exact ⟨e', he'.trans (hkind c' e), List.mem_cons_of_mem _ hmem⟩

/-- Every cue of a passage that admits an emitter is answered. -/
theorem exists_mem_performance (guarded : Bool) {ps : List Passage} {q : Passage} {c : Cue} {e : ε}
    (hq : q ∈ ps) (hc : c ∈ q.cues) (hadmits : q.admitsKind (Emitter.kind e) = true) :
    ∃ e' : ε, Emitter.kind e' = Emitter.kind e ∧
      ⟨some c, c.answer e'⟩ ∈ performance guarded ps [e] := by
  induction ps generalizing e with
  | nil => cases hq
  | cons q' ps ih =>
      rw [performance, List.map_singleton]
      rcases List.mem_cons.mp hq with rfl | hq
      · obtain ⟨e', he', hmem⟩ := exists_mem_recital hkind hc e
        refine ⟨e', he', List.mem_append_left _ ?_⟩
        rw [Passage.pieces, List.filter_cons_of_pos (by rw [admits_eq_admitsKind, hadmits])]
        exact List.mem_append_left _ (List.mem_append_right _ hmem)
      · have hlater : q.admitsKind (Emitter.kind (q'.advance e)) = true := by
          rwa [kind_advance hkind]
        obtain ⟨e', he', hmem⟩ := ih hq hlater
        exact ⟨e', he'.trans (kind_advance hkind q' e), List.mem_append_right _ hmem⟩

end Origins

/-! ## Which feature a cue belongs to -/

section Belonging

variable {gate : FeatureGate} {r : Registry}

theorem current_recordUnder (feature : Option String) (e : Element) :
    (r.recordUnder feature e).current = r.current := rfl

theorem current_record (e : Element) : (r.record e).current = r.current := by
  rw [Registry.record, current_recordUnder]
  unfold Registry.noteCommand
  split <;> rfl

theorem currentFeature?_record (e : Element) :
    (r.record e).currentFeature? = r.currentFeature? := by
  rw [Registry.currentFeature?, current_record, ← Registry.currentFeature?]

theorem finished_record (e : Element) : (r.record e).finished = r.finished := by
  show (r.noteCommand e).finished = r.finished
  unfold Registry.noteCommand
  split <;> rfl

theorem current_recordAll (es : List Element) : (r.recordAll es).current = r.current := by
  induction es generalizing r with
  | nil => rfl
  | cons e es ih =>
      have hrest := ih (r := r.record e)
      rw [current_record] at hrest
      exact hrest

theorem current_foldl_recordException (feature : String) (es : List Element) :
    (es.foldl (Registry.recordException gate feature) r).current = r.current := by
  induction es generalizing r with
  | nil => rfl
  | cons e es ih =>
      have hone : (r.recordException gate feature e).current = r.current := by
        cases e with
        | type d =>
            rw [Registry.recordException]
            split <;> rfl
        | struct d => rfl
        | group d => rfl
        | enum d => rfl
        | command d => rfl
      rw [List.foldl_cons, ih, hone]

/-- Between features the registry is in none. -/
theorem current_through (f : Feature) (h : r.current = none) :
    (r.through gate f).current = none := by
  rw [Registry.through]
  split
  · rfl
  · rw [current_foldl_recordException, h]

theorem current_foldl_through (fs : List Feature) (h : r.current = none) :
    (fs.foldl (Registry.through gate) r).current = none := by
  induction fs generalizing r with
  | nil => exact h
  | cons f fs ih => exact ih (current_through f h)

theorem current_of_mem_elementCues {es : List Element} {c : Cue} (hc : c ∈ elementCues r es) :
    c.registry.current = r.current := by
  induction es generalizing r with
  | nil => cases hc
  | cons e es ih =>
      rw [elementCues, List.mem_cons] at hc
      rcases hc with rfl | hc
      · exact current_record e
      · rw [ih hc, current_record]

/-- Inside the passage of a feature, every cue finds the registry in that feature. -/
theorem current_of_mem_cues {f : Feature} {c : Cue} (hc : c ∈ f.cues r) :
    c.registry.current = some (f.name, f.kind) := by
  rw [Feature.cues, List.mem_cons, List.mem_append, List.mem_append, List.mem_singleton] at hc
  rcases hc with rfl | hrequire | helement | rfl
  · rfl
  · obtain ⟨command, -, rfl⟩ := List.mem_map.mp hrequire
    rfl
  · rw [current_of_mem_elementCues helement]
    rfl
  · rw [current_recordAll]
    rfl

theorem exists_of_mem_featurePassages {fs : List Feature} {q : Passage}
    (hq : q ∈ featurePassages gate r fs) :
    ∃ f ∈ fs, ∃ r', gate.isSupported f.name = true ∧
      q = .feature f.name (gate.evaluate f.name) (f.cues r') := by
  induction fs generalizing r with
  | nil => cases hq
  | cons f fs ih =>
      have hlater : ∀ {r}, q ∈ featurePassages gate r fs → ∃ f' ∈ f :: fs, ∃ r',
          gate.isSupported f'.name = true ∧
            q = .feature f'.name (gate.evaluate f'.name) (f'.cues r') := by
        intro r hq
        obtain ⟨f', hf', hrest⟩ := ih hq
        exact ⟨f', List.mem_cons_of_mem _ hf', hrest⟩
      rw [featurePassages] at hq
      by_cases hs : gate.isSupported f.name = true
      · rw [if_pos hs, List.mem_cons] at hq
        rcases hq with rfl | hq
        · exact ⟨f, List.mem_cons_self, r, hs, rfl⟩
        · exact hlater hq
      · rw [if_neg hs] at hq
        exact hlater hq

theorem exists_mem_featurePassages {fs : List Feature} {f : Feature} (hf : f ∈ fs)
    (hs : gate.isSupported f.name = true) (r : Registry) :
    ∃ r', .feature f.name (gate.evaluate f.name) (f.cues r') ∈ featurePassages gate r fs := by
  induction fs generalizing r with
  | nil => cases hf
  | cons f' fs ih =>
      rw [featurePassages]
      rcases List.mem_cons.mp hf with rfl | hf
      · exact ⟨r, by rw [if_pos hs]; exact List.mem_cons_self⟩
      · obtain ⟨r', hmem⟩ := ih hf (r.through gate f')
        refine ⟨r', ?_⟩
        split
        · exact List.mem_cons_of_mem _ hmem
        · exact hmem

/-- A kind that no restriction names hears a cue in an unrestricted feature or in none. -/
theorem restriction?_of_mem_script {s : Schema} {kind : EmitterKind} (h : gate.Unnamed kind)
    {q : Passage} {c : Cue} (hq : q ∈ s.script gate) (hc : c ∈ q.cues)
    (hadmits : q.admitsKind kind = true) {name : String}
    (hname : c.registry.currentFeature? = some name) : gate.restriction? name = none := by
  have hnowhere : c.registry.current = none → gate.restriction? name = none := by
    intro hnone
    rw [Registry.currentFeature?, hnone] at hname
    cases hname
  rw [Schema.script, List.mem_cons, List.mem_append, List.mem_singleton] at hq
  rcases hq with rfl | hfeature | rfl
  · rw [List.mem_singleton.mp hc] at hnowhere
    exact hnowhere rfl
  · obtain ⟨f, -, r', hs, rfl⟩ := exists_of_mem_featurePassages hfeature
    rw [Registry.currentFeature?, current_of_mem_cues hc] at hname
    injection hname with hname
    rw [← hname]
    exact (h.admits_iff hs).mp hadmits
  · rw [List.mem_singleton.mp hc] at hnowhere
    exact hnowhere (current_foldl_through s.features rfl)

/-! ## Which definitions are told -/

theorem exists_mem_elementCues {es : List Element} {e : Element} (he : e ∈ es) (r : Registry) :
    ∃ r', ⟨r', .element e⟩ ∈ elementCues r es := by
  induction es generalizing r with
  | nil => cases he
  | cons e' es ih =>
      rw [elementCues]
      rcases List.mem_cons.mp he with rfl | he
      · exact ⟨r.record e, List.mem_cons_self⟩
      · obtain ⟨r', hmem⟩ := ih he (r.record e')
        exact ⟨r', List.mem_cons_of_mem _ hmem⟩

theorem mem_of_mem_elementCues {es : List Element} {c : Cue} (hc : c ∈ elementCues r es) :
    ∃ e ∈ es, c.callback = .element e := by
  induction es generalizing r with
  | nil => cases hc
  | cons e es ih =>
      rw [elementCues, List.mem_cons] at hc
      rcases hc with rfl | hc
      · exact ⟨e, List.mem_cons_self, rfl⟩
      · obtain ⟨e', he', hcallback⟩ := ih hc
        exact ⟨e', List.mem_cons_of_mem _ he', hcallback⟩

theorem mem_elements_of_mem_cues {f : Feature} {r' : Registry} {e : Element}
    (hc : ⟨r', .element e⟩ ∈ f.cues r) : e ∈ f.elements := by
  rw [Feature.cues, List.mem_cons, List.mem_append, List.mem_append, List.mem_singleton] at hc
  rcases hc with hc | hrequire | helement | hc
  · cases hc
  · obtain ⟨command, -, hc⟩ := List.mem_map.mp hrequire
    cases hc
  · obtain ⟨e', he', hcallback⟩ := mem_of_mem_elementCues helement
    cases hcallback
    exact Feature.mem_orderedElements.mp he'
  · cases hc

variable {s : Schema} {kind : EmitterKind} {e : Element}

/-- A definition that such a kind is told of is of an unrestricted feature. -/
theorem exists_feature_of_told (h : gate.Unnamed kind) {q : Passage} (hq : q ∈ s.script gate)
    (hc : ⟨r, .element e⟩ ∈ q.cues) (hadmits : q.admitsKind kind = true) :
    ∃ f ∈ s.features, gate.isUnrestricted f.name = true ∧ e ∈ f.elements := by
  rw [Schema.script, List.mem_cons, List.mem_append, List.mem_singleton] at hq
  rcases hq with rfl | hfeature | rfl
  · cases List.mem_singleton.mp hc
  · obtain ⟨f, hf, r', hs, rfl⟩ := exists_of_mem_featurePassages hfeature
    have hopen : gate.restriction? f.name = none := (h.admits_iff hs).mp hadmits
    refine ⟨f, hf, ?_, mem_elements_of_mem_cues hc⟩
    rw [FeatureGate.isUnrestricted, hs, hopen]
    rfl
  · cases List.mem_singleton.mp hc

/-- It is told of every one of them. -/
theorem exists_told (h : gate.Unnamed kind) {f : Feature} (hf : f ∈ s.features)
    (hopen : gate.isUnrestricted f.name = true) (he : e ∈ f.elements) :
    ∃ q ∈ s.script gate, q.admitsKind kind = true ∧ ∃ r, ⟨r, .element e⟩ ∈ q.cues := by
  rw [FeatureGate.isUnrestricted, Bool.and_eq_true, Option.isNone_iff_eq_none] at hopen
  obtain ⟨r', hq⟩ := exists_mem_featurePassages hf hopen.1 {}
  obtain ⟨r, hc⟩ := exists_mem_elementCues (Feature.mem_orderedElements.mpr he)
    (r'.beginFeature f.name f.kind)
  refine ⟨_, List.mem_cons_of_mem _ (List.mem_append_left _ hq), (h.admits_iff hopen.1).mpr hopen.2,
    r, ?_⟩
  exact List.mem_cons_of_mem _ (List.mem_append_right _ (List.mem_append_left _ hc))

end Belonging

end VulkanWire
