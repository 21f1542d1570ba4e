import Mathlib.Data.List.Flatten
import Mathlib.Data.List.Forall2
import Mathlib.Data.List.Nodup
import Mathlib.Data.List.Perm.Basic
import VulkanWire.Proofs.Generator.Origins
import VulkanWire.Proofs.Generator.Text
import VulkanWire.Proofs.Schema.Walking

/-!
# What one emitter hears and says

A module gathers the answers of all emitters that are bound to it. One of them
can still be looked at alone: what it hears depends on its kind only, it answers
from a state that no other emitter has touched, and what it says stands in the
module's text in the same order. So two emitters of one kind hear the same
definitions with the same registry, in whatever modules they are.

## Main definitions

* `Schema.heard` — the cues that a kind of emitters is told of.
* `Schema.answers` — what an emitter says, wherever it is bound.
* `Schema.introductions` — the definitions that a kind of emitters is told of.
* `Says` — what an emitter says in its implementation, and what becomes of it.

## Main results

* `map_definition_introductions` — which definitions these are.
* `OutputModule.answers_sublist` — a module holds the answers of its emitters.
* `exists_paired_answers` — two emitters answer the same definitions, one by one.
* `Generator.exists_run_answers` — after a run, the answers of every emitter stand in
  its module.
-/

namespace VulkanWire

/-! ## What a kind of emitters hears -/

/-- The cues of a passage that emitters of a kind are told of. -/
def Passage.heard (kind : EmitterKind) (p : Passage) : List Cue :=
  if p.admitsKind kind then p.cues else []

/-- The cues of a run that emitters of a kind are told of. -/
def Schema.heard (s : Schema) (gate : FeatureGate) (kind : EmitterKind) : List Cue :=
  (s.script gate).flatMap (Passage.heard kind)

/-- A definition as emitters are told of it: in its feature, with the registry by then. -/
structure Introduction where
  feature : Feature
  registry : Registry
  definition : Element

/-- The cue that tells emitters of a definition. -/
def Introduction.cue (i : Introduction) : Cue := ⟨i.registry, .element i.definition⟩

/-- The introductions of some definitions of a feature, given the registry before them. -/
def Feature.introduce (f : Feature) (r : Registry) : List Element → List Introduction
  | [] => []
  | e :: rest => ⟨f, r.record e, e⟩ :: f.introduce (r.record e) rest

/-- The definitions of a feature as its emitters are told of them, given the registry before it. -/
def Feature.introductions (f : Feature) (r : Registry) : List Introduction :=
  f.introduce (r.beginFeature f.name f.kind) f.orderedElements

/-- The definitions that emitters of a kind are told of in features, given the registry before. -/
def introductionsFrom (gate : FeatureGate) (kind : EmitterKind) (r : Registry) :
    List Feature → List Introduction
  | [] => []
  | f :: rest =>
    (if (gate.evaluate f.name).admits kind then f.introductions r else []) ++
      introductionsFrom gate kind (r.through gate f) rest

/-- The definitions that emitters of a kind are told of in a run. -/
def Schema.introductions (s : Schema) (gate : FeatureGate) (kind : EmitterKind) :
    List Introduction :=
  introductionsFrom gate kind {} s.features

/-- Whether a cue tells of a definition. -/
def Cue.isElement (c : Cue) : Bool :=
  match c.callback with
  | .element _ => true
  | _ => false

/-- Whether a piece answers to a definition. -/
def Piece.isElement (p : Piece) : Bool := p.cue?.any Cue.isElement

section Hearing

variable {gate : FeatureGate} {kind : EmitterKind} {f : Feature} {fs : List Feature} {r : Registry}
  {s : Schema}

/-- Only supported features are admitted to anyone. -/
theorem isSupported_of_admits {name : String} (h : (gate.evaluate name).admits kind = true) :
    gate.isSupported name = true := by
  rw [← gate.supported_evaluate]
  rw [FeatureDecision.admits, Bool.and_eq_true] at h
  exact h.1

/-- Feature by feature, a kind hears the cues of those that admit it. -/
theorem heard_featurePassages_cons :
    (featurePassages gate r (f :: fs)).flatMap (Passage.heard kind) =
      (if (gate.evaluate f.name).admits kind then f.cues r else []) ++
        (featurePassages gate (r.through gate f) fs).flatMap (Passage.heard kind) := by
  rw [featurePassages]
  by_cases hs : gate.isSupported f.name = true
  · rw [if_pos hs, List.flatMap_cons]
    rfl
  · have hnobody : ¬ (gate.evaluate f.name).admits kind = true := fun h =>
      hs (isSupported_of_admits h)
    rw [if_neg hs, if_neg hnobody, List.nil_append]

theorem heard_eq (s : Schema) (gate : FeatureGate) (kind : EmitterKind) :
    s.heard gate kind =
      ⟨{}, .start⟩ :: ((featurePassages gate {} s.features).flatMap (Passage.heard kind) ++
        [⟨s.finalRegistry gate, .finish⟩]) := by
  rw [Schema.heard, Schema.script, List.flatMap_cons, List.flatMap_append, List.flatMap_singleton]
  rfl

theorem elementCues_eq (f : Feature) (r : Registry) (es : List Element) :
    elementCues r es = (f.introduce r es).map Introduction.cue := by
  induction es generalizing r with
  | nil => rfl
  | cons e es ih =>
      rw [elementCues, Feature.introduce, List.map_cons, ih]
      rfl

/-- The definitions among the cues of a feature are its introductions. -/
theorem filter_cues (f : Feature) (r : Registry) :
    (f.cues r).filter Cue.isElement = (f.introductions r).map Introduction.cue := by
  have hrequire : (f.require.map fun c =>
      Cue.mk (r.beginFeature f.name f.kind) (.requireCommand c)).filter Cue.isElement = [] := by
    rw [List.filter_map, List.map_eq_nil_iff]
    exact List.filter_eq_nil_iff.mpr fun _ _ => Bool.false_ne_true
  have helements : ((f.introductions r).map Introduction.cue).filter Cue.isElement =
      (f.introductions r).map Introduction.cue := by
    rw [List.filter_eq_self]
    intro c hc
    obtain ⟨i, -, rfl⟩ := List.mem_map.mp hc
    rfl
  rw [Feature.cues, elementCues_eq f, ← Feature.introductions,
    List.filter_cons_of_neg Bool.false_ne_true, List.filter_append, List.filter_append, hrequire,
    helements, List.filter_cons_of_neg Bool.false_ne_true, List.filter_nil, List.append_nil,
    List.nil_append]

/-- The definitions that a kind hears of in features are those it is told of. -/
theorem filter_heard_featurePassages (fs : List Feature) (r : Registry) :
    ((featurePassages gate r fs).flatMap (Passage.heard kind)).filter Cue.isElement =
      (introductionsFrom gate kind r fs).map Introduction.cue := by
  induction fs generalizing r with
  | nil => rfl
  | cons f fs ih =>
      rw [heard_featurePassages_cons, introductionsFrom, List.filter_append, List.map_append, ih]
      by_cases hadmits : (gate.evaluate f.name).admits kind = true
      · rw [if_pos hadmits, if_pos hadmits, filter_cues]
      · rw [if_neg hadmits, if_neg hadmits]
        rfl

/-- The definitions that a kind hears of in a run are those it is told of. -/
theorem filter_heard (s : Schema) (gate : FeatureGate) (kind : EmitterKind) :
    (s.heard gate kind).filter Cue.isElement =
      (s.introductions gate kind).map Introduction.cue := by
  rw [heard_eq, List.filter_cons_of_neg Bool.false_ne_true, List.filter_append,
    filter_heard_featurePassages]
  exact List.append_nil _

theorem map_definition_introduce (f : Feature) (r : Registry) (es : List Element) :
    (f.introduce r es).map (·.definition) = es := by
  induction es generalizing r with
  | nil => rfl
  | cons e es ih => rw [Feature.introduce, List.map_cons, ih]

/-- A kind is told of the definitions of the features that admit it, in traversal order. -/
theorem map_definition_introductions (s : Schema) (gate : FeatureGate) (kind : EmitterKind) :
    (s.introductions gate kind).map (·.definition) =
      (s.features.filter fun f => (gate.evaluate f.name).admits kind).flatMap
        (·.orderedElements) := by
  have hall : ∀ (fs : List Feature) (r : Registry),
      (introductionsFrom gate kind r fs).map (·.definition) =
        (fs.filter fun f => (gate.evaluate f.name).admits kind).flatMap (·.orderedElements) := by
    intro fs
    induction fs with
    | nil => intro r; rfl
    | cons f fs ih =>
        intro r
        rw [introductionsFrom, List.map_append, ih]
        by_cases hadmits : (gate.evaluate f.name).admits kind = true
        · rw [if_pos hadmits, List.filter_cons_of_pos (by exact hadmits), List.flatMap_cons,
            Feature.introductions, map_definition_introduce]
        · rw [if_neg hadmits, List.filter_cons_of_neg (by exact hadmits)]
          rfl
  exact hall s.features {}

theorem exists_introduction (hf : f ∈ s.features)
    (hadmits : (gate.evaluate f.name).admits kind = true) {e : Element} (he : e ∈ f.elements) :
    ∃ i ∈ s.introductions gate kind, i.definition = e := by
  rw [← List.mem_map, map_definition_introductions]
  exact List.mem_flatMap.mpr
    ⟨f, List.mem_filter.mpr ⟨hf, hadmits⟩, Feature.mem_orderedElements.mpr he⟩

/-- Where definitions have names of their own, so have those that a kind is told of. -/
theorem nodup_names_introductions (gate : FeatureGate) (kind : EmitterKind)
    (h : ((s.features.flatMap (·.elements)).map (·.name)).Nodup) :
    ((s.introductions gate kind).map (·.definition.name)).Nodup := by
  have hperm : ((s.features.filter fun f => (gate.evaluate f.name).admits kind).flatMap
      (·.orderedElements)).Perm
        ((s.features.filter fun f => (gate.evaluate f.name).admits kind).flatMap (·.elements)) :=
    List.Perm.flatMap_left _ fun f _ => f.orderedElements_perm
  have hsub := (List.filter_sublist (p := fun f : Feature =>
    (gate.evaluate f.name).admits kind) (l := s.features)).flatMap (·.elements)
  have hnames : (s.introductions gate kind).map (·.definition.name) =
      ((s.introductions gate kind).map (·.definition)).map (·.name) := by
    rw [List.map_map]
    rfl
  rw [hnames, map_definition_introductions, (hperm.map _).nodup_iff]
  exact (hsub.map _).nodup h

/-- Kinds that no restriction names are told of the same definitions, with the same registries. -/
theorem FeatureGate.Unnamed.introductions_eq {kind' : EmitterKind} (h : gate.Unnamed kind)
    (h' : gate.Unnamed kind') (s : Schema) :
    s.introductions gate kind = s.introductions gate kind' := by
  have hadmits : ∀ name, (gate.evaluate name).admits kind = (gate.evaluate name).admits kind' := by
    intro name
    rw [Bool.eq_iff_iff]
    constructor
    · intro hk
      have hs := isSupported_of_admits hk
      exact (h'.admits_iff hs).mpr ((h.admits_iff hs).mp hk)
    · intro hk
      have hs := isSupported_of_admits hk
      exact (h.admits_iff hs).mpr ((h'.admits_iff hs).mp hk)
  have hall : ∀ (fs : List Feature) (r : Registry),
      introductionsFrom gate kind r fs = introductionsFrom gate kind' r fs := by
    intro fs
    induction fs with
    | nil => intro r; rfl
    | cons f fs ih =>
        intro r
        rw [introductionsFrom, introductionsFrom, hadmits, ih]
  exact hall s.features {}

end Hearing

/-! ## One emitter among others -/

section Answers

variable {ε : Type} [Emitter ε] {e : ε} {es : List ε}

/-- What an emitter answers in a run, wherever it is bound. -/
def Schema.answers (s : Schema) (gate : FeatureGate) (e : ε) : List Piece :=
  recital (s.heard gate (Emitter.kind e)) [e]

theorem recital_append (cues cues' : List Cue) (e : ε) :
    recital (cues ++ cues') [e] =
      recital cues [e] ++ recital cues' [cues.foldl (fun e c => c.after e) e] := by
  induction cues generalizing e with
  | nil => rfl
  | cons c cues ih =>
      rw [List.cons_append, recital_singleton, recital_singleton, ih, List.foldl_cons,
        List.cons_append]

theorem recital_sublist (h : e ∈ es) (cues : List Cue) :
    (recital cues [e]).Sublist (recital cues es) := by
  induction cues generalizing e es with
  | nil => exact List.Sublist.refl _
  | cons c cues ih =>
      have hanswer : (⟨some c, c.answer e⟩ : Piece) ∈ es.map fun e => ⟨some c, c.answer e⟩ :=
        List.mem_map_of_mem h
      have hrest := ih (List.mem_map_of_mem (f := c.after) h)
      exact (List.singleton_sublist.mpr hanswer).append hrest

/-- What an emitter says in a passage, it says there among others. -/
theorem pieces_sublist (guarded : Bool) (h : e ∈ es) (p : Passage) :
    (recital (p.heard (Emitter.kind e)) [e]).Sublist (p.pieces guarded es) := by
  by_cases hadmits : p.admitsKind (Emitter.kind e) = true
  · have hchosen : e ∈ es.filter (p.admits ·) :=
      List.mem_filter.mpr ⟨h, by rw [admits_eq_admitsKind, hadmits]⟩
    rw [Passage.heard, if_pos hadmits, Passage.pieces]
    have hsaid := (recital_sublist hchosen p.cues).trans
      (List.sublist_append_right (p.opening guarded) _)
    exact hsaid.trans (List.sublist_append_left _ _)
  · rw [Passage.heard, if_neg hadmits]
    exact List.nil_sublist _

theorem advance_eq_foldl (e : ε) (p : Passage) :
    p.advance e = (p.heard (Emitter.kind e)).foldl (fun e c => c.after e) e := by
  rw [Passage.advance, admits_eq_admitsKind, Passage.heard]
  split <;> rfl

variable (hkind : ∀ (c : Cue) (e : ε), Emitter.kind (c.after e) = Emitter.kind e)
include hkind

/-- What an emitter says alone, it says in the same order among others. -/
theorem performance_sublist (guarded : Bool) (h : e ∈ es) (ps : List Passage) :
    (recital (ps.flatMap (Passage.heard (Emitter.kind e))) [e]).Sublist
      (performance guarded ps es) := by
  induction ps generalizing e es with
  | nil => exact List.Sublist.refl _
  | cons p ps ih =>
      have hrest := ih (List.mem_map_of_mem (f := p.advance) h)
      rw [kind_advance hkind, advance_eq_foldl] at hrest
      rw [List.flatMap_cons, recital_append, performance]
      exact (pieces_sublist guarded h p).append hrest

/-- The pieces of a module are the answers of every emitter that is bound to it, and others. -/
theorem OutputModule.answers_sublist {m : OutputModule} (gate : FeatureGate) (s : Schema)
    {bindings : List (Binding ε)} {b : Binding ε} (hb : b ∈ bindings) (hname : b.module = m.name) :
    (s.answers gate b.emitter).Sublist (m.pieces gate s bindings) := by
  refine performance_sublist hkind m.usesGuards ?_ (s.script gate)
  exact List.mem_map_of_mem (List.mem_filter.mpr ⟨hb, by simpa using hname⟩)

end Answers

/-! ## Answering cue by cue -/

section Answering

variable {ε : Type} [Emitter ε] {inv : ε → Prop} {e : ε} {kind : EmitterKind}

/-- A piece answers a cue, by an emitter with some property. -/
def Answered (inv : ε → Prop) (c : Cue) (p : Piece) : Prop :=
  p.cue? = some c ∧ ∃ e, inv e ∧ p.text = c.answer e

variable (hkeeps : ∀ (c : Cue) (e : ε), inv e → inv (c.after e))
include hkeeps

/-- Cue by cue, an emitter gives its answers, and keeps a property that every answer keeps. -/
theorem forall₂_recital (he : inv e) (cues : List Cue) :
    List.Forall₂ (Answered inv) cues (recital cues [e]) := by
  induction cues generalizing e with
  | nil => exact .nil
  | cons c cues ih =>
      rw [recital_singleton]
      exact .cons ⟨rfl, e, he, rfl⟩ (ih (hkeeps c e he))

/-- An emitter answers to exactly the definitions that its kind is told of, one by one. -/
theorem forall₂_answers (he : inv e) (hkind : Emitter.kind e = kind) (s : Schema)
    (gate : FeatureGate) :
    List.Forall₂ (fun i p => Answered inv i.cue p) (s.introductions gate kind)
      ((s.answers gate e).filter Piece.isElement) := by
  have hfiltered : List.Forall₂ (Answered inv) ((s.heard gate kind).filter Cue.isElement)
      ((s.answers gate e).filter Piece.isElement) := by
    rw [Schema.answers, hkind]
    refine List.rel_filter ?_ (forall₂_recital hkeeps he (s.heard gate kind))
    rintro c p ⟨hcue, -⟩
    show c.isElement = true ↔ p.cue?.any Cue.isElement = true
    rw [hcue]
    exact Iff.rfl
  rw [filter_heard, List.forall₂_map_left_iff] at hfiltered
  exact hfiltered

end Answering

/-- Two lists that each go with a third one go with it in pairs. -/
theorem exists_pairs {α β γ : Type} {A : α → β → Prop} {B : α → γ → Prop} {as : List α} {bs : List β}
    {cs : List γ} (hb : List.Forall₂ A as bs) (hc : List.Forall₂ B as cs) :
    ∃ pairs : List (β × γ), pairs.map (·.1) = bs ∧ pairs.map (·.2) = cs ∧
      List.Forall₂ (fun a p => A a p.1 ∧ B a p.2) as pairs := by
  induction hb generalizing cs with
  | nil =>
      cases hc
      exact ⟨[], rfl, rfl, .nil⟩
  | @cons a b as bs hab _ ih =>
      cases hc with
      | @cons _ c _ cs hac hc =>
          obtain ⟨pairs, rfl, rfl, hpairs⟩ := ih hc
          exact ⟨(b, c) :: pairs, rfl, rfl, .cons ⟨hab, hac⟩ hpairs⟩

/-- Two emitters whose kinds are told of the same definitions answer to them in pairs. -/
theorem exists_paired_answers {ε : Type} [Emitter ε] {inv inv' : ε → Prop} {e e' : ε}
    {kind kind' : EmitterKind} {s : Schema} {gate : FeatureGate}
    (hkeeps : ∀ (c : Cue) (e : ε), inv e → inv (c.after e))
    (hkeeps' : ∀ (c : Cue) (e : ε), inv' e → inv' (c.after e)) (he : inv e) (he' : inv' e')
    (hkind : Emitter.kind e = kind) (hkind' : Emitter.kind e' = kind')
    (hsame : s.introductions gate kind' = s.introductions gate kind) :
    ∃ pairs : List (Piece × Piece),
      pairs.map (·.1) = (s.answers gate e).filter Piece.isElement ∧
      pairs.map (·.2) = (s.answers gate e').filter Piece.isElement ∧
      List.Forall₂ (fun i p => Answered inv i.cue p.1 ∧ Answered inv' i.cue p.2)
        (s.introductions gate kind) pairs := by
  have hsecond := forall₂_answers hkeeps' he' hkind' s gate
  rw [hsame] at hsecond
  exact exists_pairs (forall₂_answers hkeeps he hkind s gate) hsecond

/-! ## What an emitter says, one thing after the other -/

/-- Told of cues, an emitter says a text in its implementation and becomes another one. -/
structure Says {ε : Type} [Emitter ε] (e : ε) (cues : List Cue) (text : String) (e' : ε) : Prop where
  text : (Piece.texts (recital cues [e])).implementation = text
  after : cues.foldl (fun e c => c.after e) e = e'

namespace Says

variable {ε : Type} [Emitter ε] {e e' e'' : ε} {cues cues' : List Cue} {text text' : String}

theorem nil (e : ε) : Says e [] "" e := ⟨rfl, rfl⟩

theorem append (h : Says e cues text e') (h' : Says e' cues' text' e'') :
    Says e (cues ++ cues') (text ++ text') e'' where
  text := by
    rw [recital_append, Piece.texts_append, Emission.append_implementation, h.text, h.after, h'.text]
  after := by rw [List.foldl_append, h.after, h'.after]

theorem single {c : Cue} (htext : (c.answer e).implementation = text) (hafter : c.after e = e') :
    Says e [c] text e' where
  text := by
    rw [recital_singleton, Piece.texts, List.map_cons, Emission.concat_cons]
    exact htext ▸ String.append_empty
  after := hafter

theorem cons {c : Cue} (htext : (c.answer e).implementation = text) (hafter : c.after e = e')
    (h : Says e' cues text' e'') : Says e (c :: cues) (text ++ text') e'' :=
  (single htext hafter).append h

/-- A silent answer adds nothing. -/
theorem silent {c : Cue} (htext : (c.answer e).implementation = "") (hafter : c.after e = e')
    (h : Says e' cues text e'') : Says e (c :: cues) text e'' := by
  have hall := cons htext hafter h
  rwa [String.empty_append] at hall

end Says

/-! ## Modules that take text -/

namespace Generator

variable {ε : Type} [Emitter ε] {o : GeneratorOptions} {gate : FeatureGate}
  {specs : List ModuleSpec} {bindings : List (Binding ε)} {s : Schema}

/-- A run of an assembled generator comes to its end on every disk, with the registry of its schema,
and every module that is not suppressed holds what the emitters bound to it have performed. -/
theorem exists_run_performed {g : Generator ε} (hg : assemble o gate specs bindings = .ok g)
    (hs : s.validate = .ok ()) (d : Disk) :
    ∃ report g' d', (g.run s : OnDisk _).run d = ((.ok report, g'), d') ∧
      g'.registry = s.finalRegistry gate ∧ g'.modules.map (·.spec) = specs ∧
      ∀ m ∈ g'.modules, m.suppressed = false →
        m.text = Piece.texts (m.pieces gate s bindings) := by
  obtain ⟨hsound, rfl⟩ := assemble_eq_ok_iff.mp hg
  obtain ⟨bound, hrun⟩ := run_assembled hsound hs
  obtain ⟨report, d', hdeliver⟩ := exists_deliver (concluded o gate specs bindings s bound) d
  refine ⟨report, _, d', hrun hdeliver, rfl, ?_, ?_⟩
  · have hspecs : ∀ keep, (suppress keep (specs.map (declare o))).map (·.spec) = specs := by
      intro keep
      cases keep <;> simp [suppress, declare, OutputModule.ofSpec, Function.comp_def]
    simp only [delivered, concluded, List.map_map, Function.comp_def, OutputModule.spec_spent,
      OutputModule.spec_performed]
    exact hspecs o.suppressExcept
  · intro m hm hopen
    obtain ⟨m₀, hm₀, rfl⟩ := List.mem_map.mp hm
    obtain ⟨m₁, hm₁, rfl⟩ := List.mem_map.mp hm₀
    obtain ⟨m₂, hm₂, suppressed, rfl, -⟩ := exists_of_mem_suppress hm₁
    obtain ⟨spec, -, rfl⟩ := List.mem_map.mp hm₂
    rw [OutputModule.suppressed_spent, OutputModule.suppressed_performed] at hopen
    subst hopen
    exact text_of_mem_performed (List.mem_map_of_mem (List.mem_singleton_self spec))

/-- An emitter's answers stand in its module, in their order, unless the module takes no text. -/
structure HoldsAnswers (g : Generator ε) (s : Schema) (gate : FeatureGate) (b : Binding ε) : Prop where
  declared : b.module ∈ g.modules.map (·.name)
  held : ∀ m ∈ g.modules, m.name = b.module → m.suppressed = false →
    ∃ pieces, m.text = Piece.texts pieces ∧ (s.answers gate b.emitter).Sublist pieces

/-- A run of an assembled generator comes to its end on every disk, with the registry of its schema,
and the answers of every emitter then stand in its module. -/
theorem exists_run_answers (hkind : ∀ (c : Cue) (e : ε), Emitter.kind (c.after e) = Emitter.kind e)
    {g : Generator ε} (hg : assemble o gate specs bindings = .ok g) (hs : s.validate = .ok ())
    (d : Disk) :
    ∃ report g' d', (g.run s : OnDisk _).run d = ((.ok report, g'), d') ∧
      g'.registry = s.finalRegistry gate ∧ ∀ b ∈ bindings, g'.HoldsAnswers s gate b := by
  obtain ⟨report, g', d', hrun, hregistry, hspecs, htext⟩ := exists_run_performed hg hs d
  refine ⟨report, g', d', hrun, hregistry, fun b hb => ⟨?_, ?_⟩⟩
  · have hnames : g'.modules.map (·.name) = specs.map (·.name) := by
      rw [← hspecs, List.map_map]
      rfl
    rw [hnames]
    exact (assemble_eq_ok_iff.mp hg).1.known b hb
  · intro m hm hname hopen
    exact ⟨_, htext m hm hopen, OutputModule.answers_sublist hkind gate s hb hname.symm⟩

end Generator

end VulkanWire
