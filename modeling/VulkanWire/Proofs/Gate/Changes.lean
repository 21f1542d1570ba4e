import Mathlib.Data.Finset.Card
import VulkanWire.Gate
import VulkanWire.Proofs.Ledger

/-!
# Gates through changes

A gate starts with some features supported and is changed from then on: features
are entered, supported ones are restricted to emitters of some kinds, and the
exceptions are replaced, in any order and any number of times. A restriction of
a feature that has not been entered before is refused, and a refused change
leaves the gate as it was. What the gate decides in the end can be read off the
changes and the answers to them: the first entry of a feature gives it its
place, and of the restrictions of a feature that were not refused the last one
counts.

## Main definitions

* `GateChange` — what a gate can be asked for.
* `FeatureGate.makeAll` — a gate through changes, with the answers.
* `entered`, `lastRestriction?`, `lastExceptions?` — what changes amount to.
* `FeatureGate.Fields` — a gate that has its features in a list and in a set.

## Main results

* `FeatureGate.Reached.append` — what one more change does.
* `FeatureGate.decisions_follow_changes` — what a gate is after any changes.
* `FeatureGate.fields_makeAll`, `FeatureGate.evaluate_fields` — with a list and a
  set, a gate gives the same answers.
-/

namespace VulkanWire

/-- A change that a gate is asked for. -/
inductive GateChange where
  | addSupported (name : String)
  /-- The restriction of a gate in place. -/
  | restrict (feature : String) (kinds : List EmitterKind)
  /-- The restriction of a gate that is being put together. -/
  | withRestriction (feature : String) (kinds : List EmitterKind)
  | withExceptions (names : List String)
deriving DecidableEq, Repr

namespace GateChange

/-- The feature that a change enters. -/
def entry? : GateChange → Option String
  | addSupported name => some name
  | _ => none

/-- The feature that a change restricts, with the kinds it is restricted to. -/
def restriction? : GateChange → Option (String × List EmitterKind)
  | restrict feature kinds => some (feature, kinds)
  | withRestriction feature kinds => some (feature, kinds)
  | _ => none

/-- The exceptions that a change puts in place of those before. -/
def exceptions? : GateChange → Option (List String)
  | withExceptions names => some names
  | _ => none

/-- How a change is refused, given the features that have been entered before it. -/
def refusal? (known : List String) (c : GateChange) : Option UnsupportedRestriction :=
  match c.restriction? with
  | some (feature, _) => if feature ∈ known then none else some ⟨feature⟩
  | none => none

/-- A restriction that is not refused is one of a known feature. -/
theorem mem_of_refusal?_eq_none {known : List String} {c : GateChange} {feature : String}
    {kinds : List EmitterKind} (hrestriction : c.restriction? = some (feature, kinds))
    (hheeded : c.refusal? known = none) : feature ∈ known := by
  rw [refusal?, hrestriction] at hheeded
  by_contra hunknown
  simp [hunknown] at hheeded

theorem refusal?_congr {known known' : List String} (h : ∀ name, name ∈ known ↔ name ∈ known')
    (c : GateChange) : c.refusal? known = c.refusal? known' := by
  simp only [refusal?, h]

end GateChange

/-! ## What changes amount to -/

/-- The features that have been entered, at the start or by a change. -/
def entered (initial : List String) (changes : List GateChange) : List String :=
  initial ++ changes.filterMap GateChange.entry?

/-- The restrictions among changes that were not refused. -/
def heeded (changes : List GateChange) (answers : List (Option UnsupportedRestriction)) :
    List (String × List EmitterKind) :=
  (changes.zip answers).filterMap fun p => if p.2 = none then p.1.restriction? else none

/-- The kinds that the last restriction of a feature names, of those that were not refused. -/
def lastRestriction? (changes : List GateChange) (answers : List (Option UnsupportedRestriction))
    (feature : String) : Option (List EmitterKind) :=
  ((heeded changes answers).filter (·.1 = feature)).getLast?.map (·.2)

def lastExceptions? (changes : List GateChange) : Option (List String) :=
  (changes.filterMap GateChange.exceptions?).getLast?

section Histories

variable (initial : List String) (changes : List GateChange) (c : GateChange)
  {answers : List (Option UnsupportedRestriction)} (feature : String)

theorem entered_append_singleton :
    entered initial (changes ++ [c]) = entered initial changes ++ c.entry?.toList := by
  rw [entered, entered, List.filterMap_append, ← List.append_assoc]
  cases c <;> rfl

/-- A restriction that is not refused is the last one of its feature from then on. -/
theorem lastRestriction?_append (hlength : answers.length = changes.length)
    (answer : Option UnsupportedRestriction) :
    lastRestriction? (changes ++ [c]) (answers ++ [answer]) feature =
      match (if answer = none then c.restriction? else none) with
      | some (restricted, kinds) =>
        if restricted = feature then some kinds else lastRestriction? changes answers feature
      | none => lastRestriction? changes answers feature := by
  have hheeded : heeded (changes ++ [c]) (answers ++ [answer]) = heeded changes answers ++
      (if answer = none then c.restriction? else none).toList := by
    rw [heeded, List.zip_append hlength.symm, List.filterMap_append]
    rfl
  rw [lastRestriction?, hheeded, List.filter_append, lastRestriction?]
  cases (if answer = none then c.restriction? else none) with
  | none =>
      rw [Option.toList_none, List.filter_nil, List.append_nil]
  | some restriction =>
      by_cases hsame : restriction.1 = feature
      · simp [hsame]
      · simp [hsame]

theorem lastExceptions?_append_singleton :
    lastExceptions? (changes ++ [c]) = c.exceptions?.or (lastExceptions? changes) := by
  rw [lastExceptions?, List.filterMap_append, lastExceptions?]
  cases c with
  | withExceptions names => exact List.getLast?_concat
  | _ => exact congrArg List.getLast? (List.append_nil _)

end Histories

/-! ## Order of first entry -/

/-- A list of the names that have been entered, in the order in which they were entered first. -/
structure InOrderOfEntry (entries listed : List String) : Prop where
  mem_iff : ∀ name, name ∈ listed ↔ name ∈ entries
  ordered : listed.Pairwise fun a b => entries.idxOf a < entries.idxOf b

namespace InOrderOfEntry

variable {entries listed : List String} {name : String}

theorem nodup (h : InOrderOfEntry entries listed) : listed.Nodup := by
  apply h.ordered.imp
  intro a b hlt heq
  rw [heq] at hlt
  exact Nat.lt_irrefl _ hlt

/-- Further entries do not change the order of those before. -/
theorem ordered_append (h : InOrderOfEntry entries listed) (later : List String) :
    listed.Pairwise fun a b => (entries ++ later).idxOf a < (entries ++ later).idxOf b := by
  apply h.ordered.imp_of_mem
  intro a b ha hb hlt
  rw [List.idxOf_append_of_mem ((h.mem_iff a).mp ha), List.idxOf_append_of_mem ((h.mem_iff b).mp hb)]
  exact hlt

theorem append_of_mem (h : InOrderOfEntry entries listed) (hname : name ∈ listed) :
    InOrderOfEntry (entries ++ [name]) listed where
  mem_iff := by
    intro other
    rw [h.mem_iff, List.mem_append, List.mem_singleton]
    apply (or_iff_left_of_imp ?_).symm
    rintro rfl
    exact (h.mem_iff other).mp hname
  ordered := h.ordered_append [name]

theorem append_of_not_mem (h : InOrderOfEntry entries listed) (hname : name ∉ listed) :
    InOrderOfEntry (entries ++ [name]) (listed ++ [name]) where
  mem_iff := by
    intro other
    rw [List.mem_append, List.mem_append, h.mem_iff]
  ordered := by
    rw [List.pairwise_append]
    refine ⟨h.ordered_append [name], List.pairwise_singleton _ _, ?_⟩
    intro a ha b hb
    rw [List.mem_singleton.mp hb, List.idxOf_append_of_mem ((h.mem_iff a).mp ha),
      List.idxOf_append_of_notMem (mt (h.mem_iff name).mpr hname)]
    have hlt := List.idxOf_lt_length_of_mem ((h.mem_iff a).mp ha)
    omega

/-- A name that is entered once more keeps its place, and a new one goes to the end. -/
theorem append_singleton (h : InOrderOfEntry entries listed) (name : String) :
    InOrderOfEntry (entries ++ [name])
      (if name ∈ listed then listed else listed ++ [name]) := by
  split
  · rename_i hname
    exact h.append_of_mem hname
  · rename_i hname
    exact h.append_of_not_mem hname

end InOrderOfEntry

/-! ## A gate through changes -/

theorem mem_insertAscending (text : String) (ts : List String) (t : String) :
    t ∈ insertAscending text ts ↔ t = text ∨ t ∈ ts := by
  induction ts with
  | nil => simp [insertAscending]
  | cons first rest ih =>
      rw [insertAscending]
      split
      · rename_i hsame
        subst hsame
        simp
      · split
        · simp
        · rw [List.mem_cons, ih, List.mem_cons]
          exact or_left_comm

namespace FeatureGate

/-- The answer to an attempt to change a gate, and the gate after it: a refused attempt leaves it as
it was. -/
def settle (g : FeatureGate) :
    Except UnsupportedRestriction FeatureGate → Option UnsupportedRestriction × FeatureGate
  | .ok g' => (none, g')
  | .error fault => (some fault, g)

/-- Asks a gate for a change. -/
def make (g : FeatureGate) : GateChange → Option UnsupportedRestriction × FeatureGate
  | .addSupported name => (none, g.addSupported name)
  | .restrict feature kinds => g.settle (g.restrict feature kinds)
  | .withRestriction feature kinds => g.settle (g.restrict feature kinds)
  | .withExceptions names => (none, g.withExceptions names)

/-- Asks a gate for changes, one after the other, and collects the answers. -/
def makeAll (g : FeatureGate) :
    List GateChange → List (Option UnsupportedRestriction) × FeatureGate
  | [] => ([], g)
  | c :: changes =>
    let (answer, g) := g.make c
    let (answers, g) := g.makeAll changes
    (answer :: answers, g)

section Making

variable (g : FeatureGate) (c : GateChange)

/-- Every change is answered by the gate that those before it have left. -/
theorem getElem?_makeAll_fst (changes : List GateChange) (i : Nat) :
    (g.makeAll changes).1[i]? =
      changes[i]?.map fun c => ((g.makeAll (changes.take i)).2.make c).1 := by
  induction changes generalizing g i with
  | nil => rfl
  | cons first changes ih =>
      cases i with
      | zero => rfl
      | succ i => exact ih (g.make first).2 i

theorem makeAll_append_singleton (changes : List GateChange) :
    g.makeAll (changes ++ [c]) =
      ((g.makeAll changes).1 ++ [((g.makeAll changes).2.make c).1],
        ((g.makeAll changes).2.make c).2) := by
  induction changes generalizing g with
  | nil => rfl
  | cons first changes ih =>
      have hrest := ih (g.make first).2
      show ((g.make first).1 :: ((g.make first).2.makeAll (changes ++ [c])).1,
        ((g.make first).2.makeAll (changes ++ [c])).2) = _
      rw [hrest]
      rfl

end Making

/-! ### The gate after a change -/

/-- What a change does to a gate: it enters the feature that it names at the end, unless the feature
is known; it restricts the feature that it names, unless that is refused; and it replaces the
exceptions by those that it names. -/
structure Made (g : FeatureGate) (c : GateChange) (answer : Option UnsupportedRestriction)
    (g' : FeatureGate) : Prop where
  answer_eq : answer = c.refusal? g.supported
  supported_eq : g'.supported =
    match c.entry? with
    | some name => if name ∈ g.supported then g.supported else g.supported ++ [name]
    | none => g.supported
  restriction?_eq : ∀ feature, g'.restriction? feature =
    match (if answer = none then c.restriction? else none) with
    | some (restricted, kinds) =>
      if restricted = feature then some kinds else g.restriction? feature
    | none => g.restriction? feature
  mem_exceptions : ∀ name, name ∈ g'.exceptions ↔
    match c.exceptions? with
    | some names => name ∈ names
    | none => name ∈ g.exceptions
  refused : ∀ fault, answer = some fault → g' = g

section Making

variable {g : FeatureGate} {c : GateChange}

theorem mem_exceptions_withExceptions (names : List String) (name : String) :
    name ∈ (g.withExceptions names).exceptions ↔ name ∈ names := by
  have hfold : ∀ ts, name ∈ names.foldl (fun acc n => insertAscending n acc) ts ↔
      name ∈ names ∨ name ∈ ts := by
    induction names with
    | nil => simp
    | cons first names ih =>
        intro ts
        rw [List.foldl_cons, ih, mem_insertAscending, List.mem_cons]
        exact or_assoc.symm.trans (or_congr_left or_comm)
  exact (hfold []).trans (or_iff_left List.not_mem_nil)

/-- A restriction, of a gate in place or of one that is being put together. -/
theorem made_restriction {feature : String} {kinds : List EmitterKind}
    (hrestriction : c.restriction? = some (feature, kinds)) (hentry : c.entry? = none)
    (hexceptions : c.exceptions? = none) :
    Made g c (g.settle (g.restrict feature kinds)).1 (g.settle (g.restrict feature kinds)).2 := by
  have hrefusal : c.refusal? g.supported =
      if feature ∈ g.supported then none else some ⟨feature⟩ := by
    rw [GateChange.refusal?, hrestriction]
  by_cases hknown : feature ∈ g.supported
  · rw [restrict, if_pos hknown]
    rw [if_pos hknown] at hrefusal
    exact {
      answer_eq := hrefusal.symm
      supported_eq := by rw [hentry]; rfl
      restriction?_eq := by
        intro other
        show (g.restrictions.insert feature kinds).find? other =
          match (if none = none then c.restriction? else none) with
          | some (restricted, kinds) =>
            if restricted = other then some kinds else g.restriction? other
          | none => g.restriction? other
        rw [if_pos rfl, hrestriction, Ledger.find?_insert]
        rfl
      mem_exceptions := by rw [hexceptions]; exact fun _ => Iff.rfl
      refused := by
        intro fault hfault
        cases hfault }
  · rw [restrict, if_neg hknown]
    rw [if_neg hknown] at hrefusal
    exact {
      answer_eq := hrefusal.symm
      supported_eq := by rw [hentry]; rfl
      restriction?_eq := fun other => rfl
      mem_exceptions := by rw [hexceptions]; exact fun _ => Iff.rfl
      refused := fun fault _ => rfl }

theorem made (g : FeatureGate) (c : GateChange) : Made g c (g.make c).1 (g.make c).2 := by
  cases c with
  | addSupported name =>
      rw [make, addSupported]
      exact {
        answer_eq := rfl
        supported_eq := apply_ite FeatureGate.supported _ _ _
        restriction?_eq := by intro other; split <;> rfl
        mem_exceptions := by intro other; split <;> exact Iff.rfl
        refused := by
          intro fault hfault
          cases hfault }
  | restrict feature kinds => exact made_restriction rfl rfl rfl
  | withRestriction feature kinds => exact made_restriction rfl rfl rfl
  | withExceptions names =>
      exact {
        answer_eq := rfl
        supported_eq := rfl
        restriction?_eq := fun other => rfl
        mem_exceptions := mem_exceptions_withExceptions names
        refused := by
          intro fault hfault
          cases hfault }

end Making

/-! ### The gate after all changes -/

/-- What has become of a gate by changes, answered in some way. -/
structure Reached (initial : List String) (changes : List GateChange)
    (answers : List (Option UnsupportedRestriction)) (g : FeatureGate) : Prop where
  length_eq : answers.length = changes.length
  supported : InOrderOfEntry (entered initial changes) g.supported
  restriction?_eq : ∀ feature, g.restriction? feature = lastRestriction? changes answers feature
  mem_supported : ∀ feature kinds, g.restriction? feature = some kinds → feature ∈ g.supported
  mem_exceptions : ∀ name,
    name ∈ g.exceptions ↔ ∃ names, lastExceptions? changes = some names ∧ name ∈ names

section Reaching

variable {initial : List String} {changes : List GateChange} {c : GateChange}
  {answers : List (Option UnsupportedRestriction)} {answer : Option UnsupportedRestriction}
  {g g' : FeatureGate}

/-- One more change. -/
theorem Reached.append (h : Reached initial changes answers g) (hmade : Made g c answer g') :
    Reached initial (changes ++ [c]) (answers ++ [answer]) g' where
  length_eq := by
    rw [List.length_append, List.length_append, h.length_eq]
    rfl
  supported := by
    rw [entered_append_singleton, hmade.supported_eq]
    cases c.entry? with
    | none =>
        rw [Option.toList_none, List.append_nil]
        exact h.supported
    | some name => exact h.supported.append_singleton name
  restriction?_eq := by
    intro feature
    rw [hmade.restriction?_eq, lastRestriction?_append _ _ _ h.length_eq, h.restriction?_eq]
  mem_supported := by
    intro feature kinds hrestricted
    have hkept : ∀ name ∈ g.supported, name ∈ g'.supported := by
      intro name hname
      rw [hmade.supported_eq]
      split
      · split
        · exact hname
        · exact List.mem_append_left _ hname
      · exact hname
    apply hkept
    rw [hmade.restriction?_eq] at hrestricted
    split at hrestricted
    · rename_i restricted kinds' hrestriction
      by_cases hheeded : answer = none
      · rw [if_pos hheeded] at hrestriction
        have hknown : restricted ∈ g.supported :=
          GateChange.mem_of_refusal?_eq_none hrestriction (hmade.answer_eq.symm.trans hheeded)
        split at hrestricted
        · rename_i hsame
          rw [← hsame]
          exact hknown
        · exact h.mem_supported feature kinds hrestricted
      · rw [if_neg hheeded] at hrestriction
        cases hrestriction
    · exact h.mem_supported feature kinds hrestricted
  mem_exceptions := by
    intro name
    rw [hmade.mem_exceptions, lastExceptions?_append_singleton]
    cases c.exceptions? with
    | none => exact h.mem_exceptions name
    | some names => simp

/-- A gate that features have been entered into only. -/
theorem reached_ofSupported (initial : List String) :
    Reached initial [] [] (ofSupported initial) := by
  induction initial using List.reverseRecOn with
  | nil =>
      exact {
        length_eq := rfl
        supported := ⟨fun _ => Iff.rfl, List.Pairwise.nil⟩
        restriction?_eq := fun _ => rfl
        mem_supported := by
          intro feature kinds hrestricted
          cases hrestricted
        mem_exceptions := by simp [ofSupported, lastExceptions?] }
  | append_singleton initial name ih =>
      have hmore := ih.append (made (ofSupported initial) (.addSupported name))
      have hgate : ofSupported (initial ++ [name]) = (ofSupported initial).addSupported name :=
        List.foldl_concat ..
      rw [hgate]
      exact {
        length_eq := rfl
        supported := by
          have hentered : entered (initial ++ [name]) [] = entered initial [.addSupported name] := by
            simp [entered, GateChange.entry?]
          rw [hentered]
          exact hmore.supported
        restriction?_eq := hmore.restriction?_eq
        mem_supported := hmore.mem_supported
        mem_exceptions := hmore.mem_exceptions }

theorem reached (initial : List String) (changes : List GateChange) :
    Reached initial changes ((ofSupported initial).makeAll changes).1
      ((ofSupported initial).makeAll changes).2 := by
  induction changes using List.reverseRecOn with
  | nil => exact reached_ofSupported initial
  | append_singleton changes c ih =>
      rw [makeAll_append_singleton]
      exact ih.append (made _ c)

end Reaching

/-! ### What a gate decides after changes -/

/-- A gate admits an emitter inside a supported feature, unless it is of a kind that the feature is
not restricted to. -/
theorem admits_evaluate_iff (g : FeatureGate) (feature : String) (kind : EmitterKind) :
    (g.evaluate feature).admits kind = true ↔
      feature ∈ g.supported ∧
        (g.restriction? feature = none ∨
          ∃ kinds, g.restriction? feature = some kinds ∧ kind ∈ kinds) := by
  rw [evaluate]
  split
  · rename_i hsupported
    cases g.restriction? feature with
    | none => simp [FeatureDecision.admits, hsupported]
    | some kinds => simp [FeatureDecision.admits, hsupported]
  · rename_i hunsupported
    simp [FeatureDecision.admits, FeatureDecision.unsupported, hunsupported]

/-- After any changes, a gate supports just the features that have been entered, each once and in
the order in which they were entered first. A change is refused exactly if it restricts a feature
that has not been entered before it, and it leaves the gate as it was then; so every restricted
feature is supported. Inside a feature the gate admits the emitters of the kinds that the last
restriction of the feature names, of those that were not refused, and all emitters if there is none.
The exceptions are those that were named last. -/
theorem decisions_follow_changes (initial : List String) (changes : List GateChange) :
    ∃ answers g, (ofSupported initial).makeAll changes = (answers, g) ∧
      (InOrderOfEntry (entered initial changes) g.supported ∧ g.supported.Nodup ∧
        ∀ feature, g.isSupported feature = true ↔ feature ∈ entered initial changes) ∧
      (∀ i : Nat, answers[i]? =
        changes[i]?.map (·.refusal? (entered initial (changes.take i)))) ∧
      (∀ (i : Nat) fault, answers[i]? = some (some fault) →
        ((ofSupported initial).makeAll (changes.take (i + 1))).2 =
          ((ofSupported initial).makeAll (changes.take i)).2) ∧
      (∀ feature kinds, g.restriction? feature = some kinds → g.isSupported feature = true) ∧
      (∀ feature kind, (g.evaluate feature).admits kind = true ↔
        feature ∈ entered initial changes ∧
          (lastRestriction? changes answers feature = none ∨
            ∃ kinds, lastRestriction? changes answers feature = some kinds ∧ kind ∈ kinds)) ∧
      ∀ name, g.isException name = true ↔
        ∃ names, lastExceptions? changes = some names ∧ name ∈ names := by
  have hreached := reached initial changes
  have hanswers := (ofSupported initial).getElem?_makeAll_fst changes
  generalize (ofSupported initial).makeAll changes = result at hreached hanswers ⊢
  refine ⟨result.1, result.2, rfl, ⟨hreached.supported, hreached.supported.nodup, ?_⟩,
    ?_, ?_, ?_, ?_, ?_⟩
  · intro feature
    rw [isSupported, List.contains_iff_mem, hreached.supported.mem_iff]
  · intro i
    rw [hanswers]
    have hbefore := (reached initial (changes.take i)).supported.mem_iff
    congr 1
    funext c
    rw [(made _ c).answer_eq]
    exact GateChange.refusal?_congr hbefore c
  · intro i fault hrefused
    rw [hanswers] at hrefused
    cases hchange : changes[i]? with
    | none =>
        rw [hchange] at hrefused
        cases hrefused
    | some c =>
        rw [hchange, Option.map_some, Option.some_inj] at hrefused
        have htake : changes.take (i + 1) = changes.take i ++ [c] := by
          rw [List.take_add_one, hchange]
          rfl
        rw [htake, makeAll_append_singleton]
        exact (made _ c).refused fault hrefused
  · intro feature kinds hrestricted
    rw [isSupported, List.contains_iff_mem]
    exact hreached.mem_supported feature kinds hrestricted
  · intro feature kind
    rw [admits_evaluate_iff, hreached.supported.mem_iff, hreached.restriction?_eq]
  · intro name
    rw [isException, List.contains_iff_mem, hreached.mem_exceptions]

/-- Changes that restrict a feature before it is entered, enter another one again, and restrict and
except more than once. -/
def contestedChanges : List GateChange := [
  .restrict "VK_KHR_surface" [.encoder],
  .addSupported "VK_KHR_surface",
  .restrict "VK_KHR_surface" [.encoder, .decoder],
  .withExceptions ["int"],
  .addSupported "VK_VERSION_1_0",
  .withRestriction "VK_KHR_surface" [.dispatch],
  .withRestriction "VK_EXT_unknown" [.encoder],
  .withExceptions ["double", "float"]]

/-- Two of them are refused and change nothing; of the others, the last ones count. -/
theorem decisions_follow_changes_sample :
    ∃ answers g, (ofSupported ["VK_VERSION_1_0"]).makeAll contestedChanges = (answers, g) ∧
      g.supported.Nodup ∧
      answers[0]? = some (some ⟨"VK_KHR_surface"⟩) ∧
      answers[2]? = some none ∧
      ((ofSupported ["VK_VERSION_1_0"]).makeAll (contestedChanges.take 7)).2 =
        ((ofSupported ["VK_VERSION_1_0"]).makeAll (contestedChanges.take 6)).2 ∧
      g.isSupported "VK_KHR_surface" = true ∧
      (g.evaluate "VK_KHR_surface").admits .dispatch = true ∧
      ¬ (g.evaluate "VK_KHR_surface").admits .encoder = true ∧
      (g.evaluate "VK_VERSION_1_0").admits .encoder = true ∧
      ¬ g.isException "int" = true := by
  obtain ⟨answers, g, hrun, ⟨-, hdistinct, -⟩, hanswers, hkept, hrestricted, hadmits, hexceptions⟩ :=
    decisions_follow_changes ["VK_VERSION_1_0"] contestedChanges
  have hfound : answers = ((ofSupported ["VK_VERSION_1_0"]).makeAll contestedChanges).1 := by
    rw [hrun]
  have hgate : g = ((ofSupported ["VK_VERSION_1_0"]).makeAll contestedChanges).2 := by
    rw [hrun]
  refine ⟨answers, g, hrun, hdistinct, (hanswers 0).trans (by decide),
    (hanswers 2).trans (by decide), ?_, ?_, ?_, ?_, ?_, ?_⟩
  · exact hkept 6 ⟨"VK_EXT_unknown"⟩ ((hanswers 6).trans (by decide))
  · apply hrestricted "VK_KHR_surface" [.dispatch]
    rw [hgate]
    decide
  · rw [hadmits, hfound]
    exact ⟨by decide, .inr ⟨[.dispatch], by decide, by decide⟩⟩
  · rw [hadmits, hfound]
    decide
  · rw [hadmits, hfound]
    exact ⟨by decide, .inl (by decide)⟩
  · rw [hexceptions]
    decide

/-! ### A list and a set

A gate can also have its features twice: in a list, for their order, and in a set, which every
question goes to. A change that would enter a feature into one of them only, or twice into the list,
would make the two differ. -/

/-- A gate with its features in a list and in a set, restrictions by look-up and exceptions in a
set. -/
structure Fields where
  /-- The supported features in order of first entry. -/
  listed : List String := []
  /-- The supported features once more. -/
  known : Finset String := ∅
  restrictions : String → Option (List EmitterKind) := fun _ => none
  exceptions : Finset String := ∅

namespace Fields

def addSupported (f : Fields) (name : String) : Fields :=
  if name ∈ f.known then f
  else { f with listed := f.listed ++ [name], known := insert name f.known }

def ofSupported (names : List String) : Fields := names.foldl addSupported {}

/-- Restricts a feature that is in the set. -/
def restrict (f : Fields) (feature : String) (kinds : List EmitterKind) :
    Option UnsupportedRestriction × Fields :=
  if feature ∈ f.known then
    (none, { f with restrictions := Function.update f.restrictions feature (some kinds) })
  else (some ⟨feature⟩, f)

/-- Asks the fields for a change. -/
def make (f : Fields) : GateChange → Option UnsupportedRestriction × Fields
  | .addSupported name => (none, f.addSupported name)
  | .restrict feature kinds => f.restrict feature kinds
  | .withRestriction feature kinds => f.restrict feature kinds
  | .withExceptions names => (none, { f with exceptions := names.toFinset })

/-- Asks the fields for changes, one after the other, and collects the answers. -/
def makeAll (f : Fields) : List GateChange → List (Option UnsupportedRestriction) × Fields
  | [] => ([], f)
  | c :: changes =>
    let (answer, f) := f.make c
    let (answers, f) := f.makeAll changes
    (answer :: answers, f)

/-- What the fields decide about a feature. -/
def evaluate (f : Fields) (feature : String) : FeatureDecision :=
  if feature ∈ f.known then ⟨true, f.restrictions feature⟩ else .unsupported

end Fields

/-- The fields that hold what a gate holds. -/
def fields (g : FeatureGate) : Fields where
  listed := g.supported
  known := g.supported.toFinset
  restrictions := g.restriction?
  exceptions := g.exceptions.toFinset

section InFields

variable (g : FeatureGate)

theorem fields_addSupported (name : String) :
    (g.addSupported name).fields = g.fields.addSupported name := by
  have hknown : name ∈ g.fields.known ↔ name ∈ g.supported := List.mem_toFinset
  by_cases h : name ∈ g.supported
  · rw [addSupported, if_pos h, Fields.addSupported, if_pos (hknown.mpr h)]
  · have hset : (g.supported ++ [name]).toFinset = insert name g.supported.toFinset := by
      ext other
      simp
    rw [addSupported, if_neg h, Fields.addSupported, if_neg (mt hknown.mp h)]
    show Fields.mk _ (g.supported ++ [name]).toFinset _ _ = _
    rw [hset]
    rfl

theorem fields_settle_restrict (feature : String) (kinds : List EmitterKind) :
    g.fields.restrict feature kinds =
      ((g.settle (g.restrict feature kinds)).1, (g.settle (g.restrict feature kinds)).2.fields) := by
  have hknown : feature ∈ g.fields.known ↔ feature ∈ g.supported := List.mem_toFinset
  by_cases h : feature ∈ g.supported
  · rw [restrict, if_pos h, Fields.restrict, if_pos (hknown.mpr h)]
    show (none, Fields.mk _ _ (Function.update g.restrictions.find? feature (some kinds)) _) = _
    rw [← Ledger.find?_insert_eq_update]
    rfl
  · rw [restrict, if_neg h, Fields.restrict, if_neg (mt hknown.mp h)]
    rfl

/-- Asked for a change, the fields give the answer of the gate and change as it does. -/
theorem fields_make (c : GateChange) :
    g.fields.make c = ((g.make c).1, (g.make c).2.fields) := by
  cases c with
  | addSupported name => exact congrArg (Prod.mk none) (g.fields_addSupported name).symm
  | restrict feature kinds => exact g.fields_settle_restrict feature kinds
  | withRestriction feature kinds => exact g.fields_settle_restrict feature kinds
  | withExceptions names =>
      have hset : (g.withExceptions names).exceptions.toFinset = names.toFinset := by
        ext name
        rw [List.mem_toFinset, List.mem_toFinset, mem_exceptions_withExceptions]
      show (none, Fields.mk _ _ _ names.toFinset) = _
      rw [← hset]
      rfl

/-- So they do through any changes. -/
theorem fields_makeAll (changes : List GateChange) :
    g.fields.makeAll changes = ((g.makeAll changes).1, (g.makeAll changes).2.fields) := by
  induction changes generalizing g with
  | nil => rfl
  | cons c changes ih =>
      rw [Fields.makeAll, fields_make]
      simp only [ih]
      rfl

theorem fields_ofSupported (names : List String) :
    (ofSupported names).fields = Fields.ofSupported names := by
  induction names using List.reverseRecOn with
  | nil => rfl
  | append_singleton names name ih =>
      rw [ofSupported, Fields.ofSupported, List.foldl_concat, List.foldl_concat,
        fields_addSupported]
      exact congrArg (·.addSupported name) ih

/-- The set has just the listed features, after any changes and whatever is refused on the way. -/
theorem Fields.known_makeAll (initial : List String) (changes : List GateChange) :
    ((ofSupported initial).makeAll changes).2.known =
        ((ofSupported initial).makeAll changes).2.listed.toFinset ∧
      ((ofSupported initial).makeAll changes).2.listed.Nodup := by
  rw [← fields_ofSupported, fields_makeAll]
  exact ⟨rfl, (reached initial changes).supported.nodup⟩

/-- The fields decide what the gate decides. -/
theorem evaluate_fields (feature : String) : g.fields.evaluate feature = g.evaluate feature :=
  if_congr List.mem_toFinset rfl rfl

end InFields

end FeatureGate

end VulkanWire
