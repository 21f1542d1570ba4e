import VulkanWire.Proofs.Generator.Passage

/-!
# The commands of a run, numbered

Emitters that number commands keep the number of the next one to themselves.
What makes several of them agree is that each numbers the same list: the
commands that are no aliases, of the supported features without restriction, in
traversal order. An emitter that answers to exactly these, and to the n-th of
them with its number n, is `Numbers`; what it says in a whole run is then
`Numbered` by that list.

## Main results

* `Numbers.recital`, `Numbers.performance` — cue by cue and passage by passage,
  an emitter numbers what it hears.
* `flatMap_live_script` — what kinds hear that no restriction names.
-/

namespace VulkanWire

/-! ## Commands that are numbered -/

/-- The command that a definition introduces, unless it is an alias. -/
def Element.liveCommand? : Element → Option CommandDef
  | .command d => if d.aliasOf.isSome then none else some d
  | _ => none

/-- The commands that a feature introduces in traversal order, aliases left out. -/
def Feature.liveCommands (f : Feature) : List CommandDef :=
  f.orderedElements.filterMap Element.liveCommand?

/-- Whether a feature is supported and open to every kind of emitter. -/
def FeatureGate.isUnrestricted (gate : FeatureGate) (feature : String) : Bool :=
  gate.isSupported feature && (gate.restriction? feature).isNone

/-- The commands of unrestricted features in traversal order, aliases left out. -/
def Schema.liveCommands (s : Schema) (gate : FeatureGate) : List CommandDef :=
  (s.features.filter fun f => gate.isUnrestricted f.name).flatMap (·.liveCommands)

/-- The command that a cue introduces, unless it is an alias. -/
def Cue.liveCommand? (c : Cue) : Option CommandDef :=
  match c.callback with
  | .element e => e.liveCommand?
  | _ => none

/-- A text in answer to a command, with the command. -/
def Piece.command? (p : Piece) : Option (CommandDef × Emission) :=
  match p.cue? with
  | some ⟨_, .element (.command d)⟩ => if p.text = .silent then none else some (d, p.text)
  | _ => none

/-- Whether emitters of a kind are told of the cues of a passage. -/
def Passage.admitsKind (kind : EmitterKind) : Passage → Bool
  | everyone _ => true
  | feature _ d _ => d.admits kind

/-- The commands that emitters of a kind are told of in a passage, aliases left out. -/
def Passage.live (kind : EmitterKind) (p : Passage) : List CommandDef :=
  if p.admitsKind kind then p.cues.filterMap Cue.liveCommand? else []

/-- Texts in answer to commands, one for each, where the text for the command at a place, counted
on from `first`, is what is rendered for it with that number and some registry. -/
def Numbered (render : Registry → Nat → CommandDef → Emission) (first : Nat)
    (commands : List CommandDef) (texts : List (CommandDef × Emission)) : Prop :=
  texts.length = commands.length ∧
    ∀ i d, commands[i]? = some d → ∃ r, texts[i]? = some (d, render r (first + i) d)

section

variable {render : Registry → Nat → CommandDef → Emission} {first : Nat}
  {ds es : List CommandDef} {ts us : List (CommandDef × Emission)}

theorem Numbered.nil : Numbered render first [] [] := by
  refine ⟨rfl, ?_⟩
  intro i d h
  cases h

theorem Numbered.cons (r : Registry) (d : CommandDef) (h : Numbered render (first + 1) ds ts) :
    Numbered render first (d :: ds) ((d, render r first d) :: ts) := by
  obtain ⟨hlength, hall⟩ := h
  refine ⟨by rw [List.length_cons, List.length_cons, hlength], ?_⟩
  intro i d' hd'
  cases i with
  | zero =>
      injection hd' with hd'
      subst hd'
      exact ⟨r, rfl⟩
  | succ i =>
      obtain ⟨r', hr'⟩ := hall i d' hd'
      have hindex : first + 1 + i = first + (i + 1) := by omega
      rw [hindex] at hr'
      exact ⟨r', hr'⟩

theorem Numbered.append (h : Numbered render first ds ts)
    (h' : Numbered render (first + ds.length) es us) :
    Numbered render first (ds ++ es) (ts ++ us) := by
  obtain ⟨hlength, hall⟩ := h
  obtain ⟨hlength', hall'⟩ := h'
  refine ⟨by rw [List.length_append, List.length_append, hlength, hlength'], ?_⟩
  intro i d hd
  by_cases hi : i < ds.length
  · rw [List.getElem?_append_left hi] at hd
    rw [List.getElem?_append_left (by omega)]
    exact hall i d hd
  · rw [List.getElem?_append_right (by omega)] at hd
    obtain ⟨r, hr⟩ := hall' (i - ds.length) d hd
    have hindex : first + ds.length + (i - ds.length) = first + i := by omega
    rw [hindex, ← hlength] at hr
    rw [List.getElem?_append_right (by omega)]
    exact ⟨r, hr⟩

/-- What is said at a place is said of the command there. -/
theorem Numbered.getElem? (h : Numbered render first ds ts) {i : Nat} {d : CommandDef}
    {text : Emission} (hi : ts[i]? = some (d, text)) :
    ds[i]? = some d ∧ ∃ r, text = render r (first + i) d := by
  have hlt : i < ds.length := h.1 ▸ (List.getElem?_eq_some_iff.mp hi).1
  obtain ⟨r, hr⟩ := h.2 i ds[i] (List.getElem?_eq_getElem hlt)
  rw [hi] at hr
  injection hr with hr
  injection hr with hd htext
  exact ⟨by rw [List.getElem?_eq_getElem hlt, ← hd], r, by rw [htext, ← hd]⟩

/-- The commands that are answered to are those numbered, in their order. -/
theorem Numbered.map_fst (h : Numbered render first ds ts) :
    ts.map (·.1) = ds := by
  apply List.ext_getElem?
  intro i
  rw [List.getElem?_map]
  cases hi : ts[i]? with
  | none =>
      have hlength : ts.length ≤ i := List.getElem?_eq_none_iff.mp hi
      exact (List.getElem?_eq_none_iff.mpr (h.1 ▸ hlength)).symm
  | some answer => exact (h.getElem? hi).1.symm

end

/-! ## Emitters that number commands -/

/-- An emitter that has numbered some commands and answers to the next with its number; `inv` says
what it is by then. -/
structure Numbers {ε : Type} [Emitter ε] (kind : EmitterKind) (inv : List CommandDef → ε → Prop)
    (render : Registry → Nat → CommandDef → Emission) : Prop where
  kind : ∀ {cs e}, inv cs e → Emitter.kind e = kind
  aliased : ∀ {cs e}, inv cs e → ∀ {r d}, d.aliasOf.isSome = true →
    (Cue.mk r (.element (.command d))).answer e = .silent
  other : ∀ {cs e}, inv cs e → ∀ {c : Cue}, c.liveCommand? = none → inv cs (c.after e)
  live : ∀ {cs e}, inv cs e → ∀ {c : Cue} {d : CommandDef}, c.liveCommand? = some d →
    c.answer e = render c.registry (opcodeBase + cs.length) d ∧ inv (cs ++ [d]) (c.after e)
  speaks : ∀ r n d, render r n d ≠ .silent

theorem Cue.exists_of_liveCommand? {c : Cue} {d : CommandDef} (h : c.liveCommand? = some d) :
    ∃ r, c = ⟨r, .element (.command d)⟩ := by
  unfold liveCommand? at h
  split at h
  · rename_i element hcallback
    cases element with
    | command command =>
        simp only [Element.liveCommand?] at h
        by_cases halias : command.aliasOf.isSome = true
        · rw [if_pos halias] at h
          cases h
        · rw [if_neg halias] at h
          injection h with h
          refine ⟨c.registry, ?_⟩
          rw [← h, ← hcallback]
    | type _ => cases h
    | struct _ => cases h
    | group _ => cases h
    | enum _ => cases h
  · cases h

section Numbering

variable {ε : Type} [Emitter ε] {kind : EmitterKind} {inv : List CommandDef → ε → Prop}
  {render : Registry → Nat → CommandDef → Emission} {cs : List CommandDef} {e : ε}

theorem recital_singleton (c : Cue) (cues : List Cue) (e : ε) :
    recital (c :: cues) [e] = ⟨some c, c.answer e⟩ :: recital cues [c.after e] := rfl

/-- To anything but a command of its own right an emitter answers nothing with a number. -/
theorem Numbers.command?_eq_none (h : Numbers kind inv render) (hinv : inv cs e) {c : Cue}
    (hlive : c.liveCommand? = none) : Piece.command? ⟨some c, c.answer e⟩ = none := by
  unfold Piece.command?
  split
  · rename_i r d hcue
    injection hcue with hcue
    subst hcue
    have halias : d.aliasOf.isSome = true := by
      simpa [Cue.liveCommand?, Element.liveCommand?, Option.isSome_iff_ne_none] using hlive
    rw [if_pos (h.aliased hinv halias)]
  · rfl

/-- Cue by cue, an emitter numbers the commands it hears. -/
theorem Numbers.recital (h : Numbers kind inv render) (hinv : inv cs e) (cues : List Cue) :
    Numbered render (opcodeBase + cs.length) (cues.filterMap Cue.liveCommand?)
        ((recital cues [e]).filterMap Piece.command?) ∧
      inv (cs ++ cues.filterMap Cue.liveCommand?) (cues.foldl (fun e c => c.after e) e) := by
  induction cues generalizing cs e with
  | nil => exact ⟨Numbered.nil, by simpa using hinv⟩
  | cons c cues ih =>
      rw [recital_singleton, List.foldl_cons]
      cases hlive : c.liveCommand? with
      | none =>
          have hquiet := h.command?_eq_none hinv hlive
          rw [List.filterMap_cons_none hlive, List.filterMap_cons_none hquiet]
          exact ih (h.other hinv hlive)
      | some d =>
          obtain ⟨hanswer, hnext⟩ := h.live hinv hlive
          have hsaid : Piece.command? ⟨some c, c.answer e⟩ =
              some (d, render c.registry (opcodeBase + cs.length) d) := by
            obtain ⟨r, rfl⟩ := Cue.exists_of_liveCommand? hlive
            rw [hanswer]
            exact if_neg (h.speaks r (opcodeBase + cs.length) d)
          obtain ⟨hnumbered, hinv'⟩ := ih hnext
          rw [List.length_append, List.length_singleton, ← Nat.add_assoc] at hnumbered
          rw [List.filterMap_cons_some hlive, List.filterMap_cons_some hsaid]
          refine ⟨hnumbered.cons c.registry d, ?_⟩
          rwa [List.append_assoc, List.singleton_append] at hinv'

theorem admits_eq_admitsKind (e : ε) (p : Passage) :
    p.admits e = p.admitsKind (Emitter.kind e) := by
  cases p <;> rfl

theorem recital_nobody (cues : List Cue) : recital cues ([] : List ε) = [] := by
  induction cues with
  | nil => rfl
  | cons c cues ih => exact ih

/-- A passage is heard as a whole or not at all. -/
theorem command?_pieces_singleton (guarded : Bool) (p : Passage) (e : ε) :
    (p.pieces guarded [e]).filterMap Piece.command? =
      if p.admitsKind (Emitter.kind e) then
        (recital p.cues [e]).filterMap Piece.command?
      else [] := by
  have hopening : (p.opening guarded).filterMap Piece.command? = [] := by cases p <;> rfl
  have hclosing : (p.closing guarded).filterMap Piece.command? = [] := by cases p <;> rfl
  rw [Passage.pieces, List.filterMap_append, List.filterMap_append, hopening, hclosing,
    List.append_nil, List.nil_append]
  by_cases hadmits : p.admitsKind (Emitter.kind e) = true
  · rw [if_pos hadmits, List.filter_cons_of_pos (by rw [admits_eq_admitsKind, hadmits])]
    rfl
  · rw [if_neg hadmits, List.filter_cons_of_neg (by rwa [admits_eq_admitsKind]), List.filter_nil,
      recital_nobody]
    rfl

/-- Passage by passage, an emitter numbers the commands it hears. -/
theorem Numbers.performance (h : Numbers kind inv render) (hinv : inv cs e) (guarded : Bool)
    (ps : List Passage) :
    Numbered render (opcodeBase + cs.length) (ps.flatMap (Passage.live kind))
        ((performance guarded ps [e]).filterMap Piece.command?) ∧
      inv (cs ++ ps.flatMap (Passage.live kind)) (ps.foldl (fun e p => p.advance e) e) := by
  induction ps generalizing cs e with
  | nil => exact ⟨Numbered.nil, by simpa using hinv⟩
  | cons p ps ih =>
      have hkind := h.kind hinv
      rw [VulkanWire.performance, List.filterMap_append, command?_pieces_singleton, hkind,
        List.flatMap_cons, List.foldl_cons, List.map_singleton]
      -- Where the kind is not admitted, the emitter neither answers nor counts on.
      by_cases hadmits : p.admitsKind kind = true
      · have hlive : p.live kind = p.cues.filterMap Cue.liveCommand? := by
          rw [Passage.live, if_pos hadmits]
        have hadvance : p.advance e = p.cues.foldl (fun e c => c.after e) e := by
          rw [Passage.advance, admits_eq_admitsKind, hkind, if_pos hadmits]
        obtain ⟨hfirst, hnext⟩ := h.recital hinv p.cues
        rw [← hlive] at hfirst hnext
        rw [← hadvance] at hnext
        obtain ⟨hrest, hend⟩ := ih hnext
        rw [List.length_append, ← Nat.add_assoc] at hrest
        rw [if_pos hadmits, ← List.append_assoc]
        exact ⟨hfirst.append hrest, hend⟩
      · have hlive : p.live kind = [] := by
          rw [Passage.live, if_neg hadmits]
        have hadvance : p.advance e = e := by
          rw [Passage.advance, admits_eq_admitsKind, hkind, if_neg hadmits]
        rw [if_neg hadmits, hlive, hadvance, List.nil_append, List.nil_append]
        exact ih hinv

end Numbering

/-! ## What a kind hears of a schema -/

/-- A kind of emitters that no restriction names. -/
def FeatureGate.Unnamed (gate : FeatureGate) (kind : EmitterKind) : Prop :=
  ∀ name kinds, gate.restriction? name = some kinds → kind ∉ kinds

section Script

variable {gate : FeatureGate} {kind : EmitterKind} {name : String}

/-- Of the supported features, a kind that no restriction names processes the unrestricted ones. -/
theorem FeatureGate.Unnamed.admits_iff (h : gate.Unnamed kind) (hs : gate.isSupported name = true) :
    (gate.evaluate name).admits kind = true ↔ gate.restriction? name = none := by
  have hsupported : name ∈ gate.supported := by simpa [FeatureGate.isSupported] using hs
  rw [FeatureGate.evaluate, if_pos hsupported]
  cases hr : gate.restriction? name with
  | none => simp [FeatureDecision.admits]
  | some kinds =>
      have hnot := h name kinds hr
      simp [FeatureDecision.admits, hnot]

theorem filterMap_elementCues (r : Registry) (es : List Element) :
    (elementCues r es).filterMap Cue.liveCommand? = es.filterMap Element.liveCommand? := by
  induction es generalizing r with
  | nil => rfl
  | cons e es ih =>
      rw [elementCues, List.filterMap_cons, List.filterMap_cons, ih]
      rfl

/-- The cues of a feature introduce its commands, in traversal order. -/
theorem filterMap_cues (f : Feature) (r : Registry) :
    (f.cues r).filterMap Cue.liveCommand? = f.liveCommands := by
  have hrequire : (f.require.map fun c =>
      Cue.mk (r.beginFeature f.name f.kind) (.requireCommand c)).filterMap Cue.liveCommand? = [] := by
    rw [List.filterMap_map]
    exact List.filterMap_eq_nil_iff.mpr fun _ _ => rfl
  rw [Feature.cues, List.filterMap_cons_none rfl, List.filterMap_append, List.filterMap_append,
    hrequire, filterMap_elementCues, List.nil_append]
  exact List.append_nil _

/-- Over all features, such a kind hears the commands of the unrestricted ones. -/
theorem flatMap_live_featurePassages (h : gate.Unnamed kind) (r : Registry) (fs : List Feature) :
    (featurePassages gate r fs).flatMap (Passage.live kind) =
      (fs.filter fun f => gate.isUnrestricted f.name).flatMap (·.liveCommands) := by
  induction fs generalizing r with
  | nil => rfl
  | cons f fs ih =>
      rw [featurePassages]
      by_cases hs : gate.isSupported f.name = true
      · rw [if_pos hs, List.flatMap_cons, ih]
        by_cases hr : gate.restriction? f.name = none
        · have hopen : gate.isUnrestricted f.name = true := by
            simp [FeatureGate.isUnrestricted, hs, hr]
          have hadmits : (gate.evaluate f.name).admits kind = true := (h.admits_iff hs).mpr hr
          rw [List.filter_cons, if_pos hopen, List.flatMap_cons, Passage.live, Passage.admitsKind,
            if_pos hadmits, Passage.cues, filterMap_cues]
        · have hclosed : ¬ gate.isUnrestricted f.name = true := by
            simp [FeatureGate.isUnrestricted, hr]
          have hadmits : ¬ (gate.evaluate f.name).admits kind = true :=
            fun hadmits => hr ((h.admits_iff hs).mp hadmits)
          rw [List.filter_cons, if_neg hclosed, Passage.live, Passage.admitsKind, if_neg hadmits,
            List.nil_append]
      · have hclosed : ¬ gate.isUnrestricted f.name = true := by
          simp [FeatureGate.isUnrestricted, hs]
        rw [if_neg hs, ih, List.filter_cons, if_neg hclosed]

/-- The script of a schema without its last passage. -/
def Schema.opening (s : Schema) (gate : FeatureGate) : List Passage :=
  .everyone ⟨{}, .start⟩ :: featurePassages gate {} s.features

theorem Schema.script_eq_opening_append (s : Schema) (gate : FeatureGate) :
    s.script gate = s.opening gate ++ [.everyone ⟨s.finalRegistry gate, .finish⟩] := rfl

/-- Before the end of the traversal, such a kind has heard all commands it is going to hear. -/
theorem flatMap_live_opening (h : gate.Unnamed kind) (s : Schema) :
    (s.opening gate).flatMap (Passage.live kind) = s.liveCommands gate := by
  rw [Schema.opening, List.flatMap_cons, flatMap_live_featurePassages h]
  rfl

theorem flatMap_live_script (h : gate.Unnamed kind) (s : Schema) :
    (s.script gate).flatMap (Passage.live kind) = s.liveCommands gate := by
  rw [Schema.script_eq_opening_append, List.flatMap_append, flatMap_live_opening h]
  exact List.append_nil _

end Script

end VulkanWire
