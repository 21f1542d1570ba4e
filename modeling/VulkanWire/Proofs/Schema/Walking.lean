import Mathlib.Data.List.Basic
import Mathlib.Data.List.Count
import VulkanWire.Schema.Traversal

/-!
# Walking through schemas

A walk delivers the definitions of a feature in a stable sort by category and
makes a fixed sequence of calls, up to and including the first that fails. What
is called can be observed from outside: a visitor that writes down every call
before it is made sees the same walk as the visitor it wraps.

## Main definitions

* `Element.noLater` — the order of categories.
* `Callbacks` — a visitor with one callback for each category.
* `Callbacks.logged` — the visitor that also writes down the calls.
* `Callbacks.Course` — the calls of a walk and how it ends.

## Main results

* `Feature.orderedElements_eq_mergeSort` — the traversal order is a stable sort.
* `Schema.count_events` — every definition is delivered once.
* `Callbacks.exists_course` — a walk makes the calls of the schema up to the first
  that fails.
-/

namespace VulkanWire

/-! ## The order of definitions -/

/-- The position of a category in the traversal order. -/
def Category.rank : Category → Nat
  | type => 0
  | struct => 1
  | group => 2
  | enum => 3
  | command => 4

/-- Every category stands in the traversal order behind those of a lower rank. -/
theorem Category.exists_split (c : Category) :
    ∃ before after, all = before ++ c :: after ∧ (∀ b ∈ before, b.rank < c.rank) ∧
      ∀ b ∈ after, b ≠ c := by
  cases c with
  | type => exact ⟨[], [struct, group, enum, command], by decide⟩
  | struct => exact ⟨[type], [group, enum, command], by decide⟩
  | group => exact ⟨[type, struct], [enum, command], by decide⟩
  | enum => exact ⟨[type, struct, group], [command], by decide⟩
  | command => exact ⟨[type, struct, group, enum], [], by decide⟩

/-- Whether the category of a definition comes no later than that of another one. -/
def Element.noLater (a b : Element) : Bool := a.category.rank ≤ b.category.rank

theorem Element.noLater_trans (a b c : Element) (h : a.noLater b = true) (h' : b.noLater c = true) :
    a.noLater c = true :=
  decide_eq_true (Nat.le_trans (of_decide_eq_true h) (of_decide_eq_true h'))

theorem Element.noLater_total (a b : Element) : (a.noLater b || b.noLater a) = true := by
  simpa [Element.noLater] using Nat.le_total a.category.rank b.category.rank

namespace Feature

/-- Definitions in the order of categories are their categories one after the other. -/
theorem eq_flatMap_of_pairwise {es : List Element}
    (h : es.Pairwise fun a b => a.noLater b = true) :
    es = Category.all.flatMap fun c => es.filter fun e => e.category = c := by
  induction es with
  | nil => rfl
  | cons e es ih =>
      rw [List.pairwise_cons] at h
      -- No definition behind the first one is of an earlier category.
      have hnone : ∀ c : Category, c.rank < e.category.rank →
          es.filter (fun e => e.category = c) = [] := by
        intro c hc
        rw [List.filter_eq_nil_iff]
        intro e' he' hcategory
        have hle := of_decide_eq_true (h.1 e' he')
        rw [of_decide_eq_true hcategory] at hle
        omega
      obtain ⟨before, after, hall, hbefore, hafter⟩ := e.category.exists_split
      have hrest : es = _ := ih h.2
      have hearlier : before.flatMap (fun c => es.filter fun e => e.category = c) = [] :=
        List.flatMap_eq_nil_iff.mpr fun c hc => hnone c (hbefore c hc)
      have hearlier' : before.flatMap (fun c => (e :: es).filter fun e => e.category = c) = [] := by
        refine List.flatMap_eq_nil_iff.mpr fun c hc => ?_
        have hother : e.category ≠ c := by
          rintro rfl
          exact Nat.lt_irrefl _ (hbefore _ hc)
        rw [List.filter_cons_of_neg (by simpa using hother), hnone c (hbefore c hc)]
      have hlater : after.flatMap (fun c => (e :: es).filter fun e => e.category = c) =
          after.flatMap fun c => es.filter fun e => e.category = c := by
        refine List.flatMap_congr fun c hc => ?_
        exact List.filter_cons_of_neg (by simpa using (hafter c hc).symm)
      rw [hall, List.flatMap_append, List.flatMap_cons, hearlier, List.nil_append] at hrest
      rw [hall, List.flatMap_append, List.flatMap_cons, hearlier', hlater,
        List.filter_cons_of_pos (by simp), List.nil_append, List.cons_append, ← hrest]

/-- A stable sort keeps the definitions of a category in their order. -/
theorem filter_mergeSort (es : List Element) (c : Category) :
    (es.mergeSort Element.noLater).filter (fun e => e.category = c) =
      es.filter fun e => e.category = c := by
  have hsame : (es.filter fun e => e.category = c).Pairwise fun a b => a.noLater b = true := by
    rw [List.pairwise_filter]
    refine List.pairwise_of_forall fun a b ha hb => ?_
    rw [Element.noLater, of_decide_eq_true ha, of_decide_eq_true hb]
    exact decide_eq_true (Nat.le_refl _)
  have hsub := (List.sublist_mergeSort Element.noLater_trans Element.noLater_total hsame
    List.filter_sublist).filter fun e => e.category = c
  rw [List.filter_filter] at hsub
  simp only [Bool.and_self] at hsub
  refine (hsub.eq_of_length ?_).symm
  exact ((List.mergeSort_perm es Element.noLater).filter _).length_eq.symm

/-- The traversal order is a stable sort by category. -/
theorem orderedElements_eq_mergeSort (f : Feature) :
    f.orderedElements = f.elements.mergeSort Element.noLater := by
  have hsorted := List.pairwise_mergeSort Element.noLater_trans Element.noLater_total f.elements
  rw [eq_flatMap_of_pairwise hsorted, orderedElements]
  simp only [filter_mergeSort]

theorem orderedElements_perm (f : Feature) : f.orderedElements.Perm f.elements := by
  rw [orderedElements_eq_mergeSort]
  exact List.mergeSort_perm _ _

theorem filter_orderedElements (f : Feature) (c : Category) :
    f.orderedElements.filter (fun e => e.category = c) =
      f.elements.filter fun e => e.category = c := by
  rw [orderedElements_eq_mergeSort, filter_mergeSort]

end Feature

/-- A feature delivers each of its definitions once. -/
theorem Feature.count_events (f : Feature) (e : Element) :
    f.events.count (.element e) = f.elements.count e := by
  have hinjective : Function.Injective Event.element := fun _ _ h => Event.element.inj h
  have helements := List.count_map_of_injective f.orderedElements Event.element hinjective e
  have hend : [Event.endFeature].count (.element e) = 0 := by simp
  rw [events, List.count_cons_of_ne (by simp), List.count_append, helements, hend, Nat.add_zero,
    f.orderedElements_perm.count_eq]

/-- Every definition is delivered as often as the features declare it. -/
theorem Schema.count_events (s : Schema) (e : Element) :
    s.events.count (.element e) = (s.features.flatMap (·.elements)).count e := by
  rw [events, innerEvents, List.count_append, List.count_cons_of_ne (by simp),
    List.count_eq_zero_of_not_mem (l := [Event.endFile]) (by simp), List.count_flatMap,
    List.count_flatMap, Nat.add_zero]
  congr 1
  exact List.map_congr_left fun f _ => f.count_events e

/-- The file ends only once. -/
theorem Schema.endFile_not_mem_innerEvents (s : Schema) : Event.endFile ∉ s.innerEvents := by
  simp [innerEvents, Feature.events]

/-! ## Calls -/

/-- A visitor with one callback for each category. -/
structure Callbacks (m : Type → Type) (ω : Type) where
  beginFile : m Unit
  beginFeature : Feature → m Unit
  genType : TypeDef → m Unit
  genStruct : StructDef → m Unit
  genGroup : GroupDef → m Unit
  genEnum : EnumDef → m Unit
  genCommand : CommandDef → m Unit
  endFeature : m Unit
  endFile : m ω

/-- What a visitor does that may fail and has a state of its own. -/
abbrev Acting (φ σ : Type) := ExceptT φ (StateM σ)

namespace Acting

variable {φ σ α β : Type} {x : Acting φ σ α} {f : α → Acting φ σ β} {v v' : σ}

/-- The answer from a state, with the state that is left. -/
def runFrom (x : Acting φ σ α) (v : σ) : Except φ α × σ := (ExceptT.run x).run v

theorem runFrom_bind_of_ok {a : α} (h : runFrom x v = (.ok a, v')) :
    runFrom (x >>= f) v = runFrom (f a) v' := by
  rw [runFrom] at h
  rw [runFrom, ExceptT.run_bind, StateT.run_bind, h]
  rfl

theorem runFrom_bind_of_error {fault : φ} (h : runFrom x v = (.error fault, v')) :
    runFrom (x >>= f) v = (.error fault, v') := by
  rw [runFrom] at h
  rw [runFrom, ExceptT.run_bind, StateT.run_bind, h]
  rfl

/-- The same, but with the call written down before it is made. -/
def logging (e : Event) (x : Acting φ σ α) : Acting φ (σ × List Event) α :=
  ExceptT.mk fun (v, log) => ((x.runFrom v).1, (x.runFrom v).2, log ++ [e])

end Acting

namespace Callbacks

section Calling

variable {m : Type → Type} {ω : Type}

/-- The visitor that gives every definition to the callback of its category. -/
def visitor (cb : Callbacks m ω) : Visitor m ω where
  beginFile := cb.beginFile
  beginFeature := cb.beginFeature
  element
    | .type d => cb.genType d
    | .struct d => cb.genStruct d
    | .group d => cb.genGroup d
    | .enum d => cb.genEnum d
    | .command d => cb.genCommand d
  endFeature := cb.endFeature
  endFile := cb.endFile

/-- The call that an event makes, whatever its value. -/
def call [Monad m] (cb : Callbacks m ω) : Event → m Unit
  | .beginFile => cb.beginFile
  | .beginFeature f => cb.beginFeature f
  | .element (.type d) => cb.genType d
  | .element (.struct d) => cb.genStruct d
  | .element (.group d) => cb.genGroup d
  | .element (.enum d) => cb.genEnum d
  | .element (.command d) => cb.genCommand d
  | .endFeature => cb.endFeature
  | .endFile => do
    let _ ← cb.endFile
    pure ()

theorem onInner_visitor [Monad m] (cb : Callbacks m ω) {e : Event} (h : e ≠ .endFile) :
    cb.visitor.onInner e = cb.call e := by
  cases e with
  | endFile => exact absurd rfl h
  | element e => cases e <;> rfl
  | _ => rfl

end Calling

variable {φ σ ω : Type}

/-- The callbacks that write down the call they make, by the event that makes it. -/
def logged (cb : Callbacks (Acting φ σ) ω) : Callbacks (Acting φ (σ × List Event)) ω where
  beginFile := .logging .beginFile cb.beginFile
  beginFeature f := .logging (.beginFeature f) (cb.beginFeature f)
  genType d := .logging (.element (.type d)) (cb.genType d)
  genStruct d := .logging (.element (.struct d)) (cb.genStruct d)
  genGroup d := .logging (.element (.group d)) (cb.genGroup d)
  genEnum d := .logging (.element (.enum d)) (cb.genEnum d)
  genCommand d := .logging (.element (.command d)) (cb.genCommand d)
  endFeature := .logging .endFeature cb.endFeature
  endFile := .logging .endFile cb.endFile

theorem call_logged (cb : Callbacks (Acting φ σ) ω) {e : Event} (h : e ≠ .endFile) :
    cb.logged.call e = .logging e (cb.call e) := by
  cases e with
  | endFile => exact absurd rfl h
  | element e => cases e <;> rfl
  | _ => rfl

/-- Calls that all succeed, one after the other, from one state of the visitor to another. -/
inductive Succeeds (cb : Callbacks (Acting φ σ) ω) : σ → List Event → σ → Prop where
  | nil (v : σ) : Succeeds cb v [] v
  | cons {v v' v'' : σ} {e : Event} {es : List Event} (here : (cb.call e).runFrom v = (.ok (), v'))
      (later : Succeeds cb v' es v'') : Succeeds cb v (e :: es) v''

/-- The calls of a walk from a state, with the result of the walk and the state it leaves: either
all events are called and the last one has the value, or those up to the first call that fails. -/
inductive Course (cb : Callbacks (Acting φ σ) ω) (events : List Event) (v : σ) :
    List Event → Except φ ω → σ → Prop where
  | finished {inner : List Event} {v₁ v' : σ} {value : ω} (split : events = inner ++ [.endFile])
      (earlier : cb.Succeeds v inner v₁) (last : cb.endFile.runFrom v₁ = (.ok value, v')) :
      Course cb events v events (.ok value) v'
  | failed {before after : List Event} {e : Event} {v₁ v' : σ} {fault : φ}
      (split : events = before ++ e :: after) (earlier : cb.Succeeds v before v₁)
      (fails : (cb.call e).runFrom v₁ = (.error fault, v')) :
      Course cb events v (before ++ [e]) (.error fault) v'

variable {cb : Callbacks (Acting φ σ) ω} {v : σ}

/-- Events before the end of the file are called in order, up to the first call that fails. -/
theorem react_course {es : List Event} (hinner : Event.endFile ∉ es) (v : σ) (log : List Event) :
    (∃ v', cb.Succeeds v es v' ∧
      (Schema.react cb.visitor es).runFrom v = (.ok (), v') ∧
      (Schema.react cb.logged.visitor es).runFrom (v, log) = (.ok (), v', log ++ es)) ∨
    ∃ before e after v₁ fault v', es = before ++ e :: after ∧ cb.Succeeds v before v₁ ∧
      (cb.call e).runFrom v₁ = (.error fault, v') ∧
      (Schema.react cb.visitor es).runFrom v = (.error fault, v') ∧
      (Schema.react cb.logged.visitor es).runFrom (v, log) =
        (.error fault, v', log ++ (before ++ [e])) := by
  induction es generalizing v log with
  | nil =>
      refine .inl ⟨v, .nil v, rfl, ?_⟩
      rw [List.append_nil]
      rfl
  | cons e es ih =>
      have he : e ≠ .endFile := fun h => hinner (h ▸ List.mem_cons_self)
      have hrest : Event.endFile ∉ es := fun h => hinner (List.mem_cons_of_mem _ h)
      have hlogged : (cb.logged.call e).runFrom (v, log) =
          (((cb.call e).runFrom v).1, ((cb.call e).runFrom v).2, log ++ [e]) := by
        rw [call_logged cb he]
        rfl
      simp only [Schema.react, onInner_visitor _ he]
      cases hcall : (cb.call e).runFrom v with
      | mk answer v₁ =>
          rw [hcall] at hlogged
          cases answer with
          | error fault =>
              refine .inr ⟨[], e, es, v, fault, v₁, rfl, .nil v, hcall, ?_, ?_⟩
              · exact Acting.runFrom_bind_of_error hcall
              · exact Acting.runFrom_bind_of_error hlogged
          | ok done =>
              rw [Acting.runFrom_bind_of_ok hcall, Acting.runFrom_bind_of_ok hlogged]
              rcases ih hrest v₁ (log ++ [e]) with ⟨v', hall, hplain, hlog⟩ |
                ⟨before, e', after, v₂, fault, v', rfl, hbefore, hfails, hplain, hlog⟩
              · refine .inl ⟨v', .cons hcall hall, hplain, ?_⟩
                rw [hlog, List.append_assoc]
                rfl
              · refine .inr ⟨e :: before, e', after, v₂, fault, v', rfl, .cons hcall hbefore,
                  hfails, hplain, ?_⟩
                rw [hlog, List.append_assoc]
                rfl

/-- A walk makes the calls of the schema's events, up to and including the first that fails. -/
theorem exists_course (s : Schema) (cb : Callbacks (Acting φ σ) ω) (v : σ) :
    ∃ made result v', (s.walk cb.logged.visitor).runFrom (v, []) = (result, v', made) ∧
      (s.walk cb.visitor).runFrom v = (result, v') ∧ cb.Course s.events v made result v' := by
  rw [Schema.walk_events, Schema.walk_events]
  rcases react_course s.endFile_not_mem_innerEvents v [] with ⟨v₁, hall, hplain, hlog⟩ |
    ⟨before, e, after, v₁, fault, v', hsplit, hbefore, hfails, hplain, hlog⟩
  · rw [Acting.runFrom_bind_of_ok hplain, Acting.runFrom_bind_of_ok hlog]
    have hlast : cb.logged.endFile.runFrom (v₁, [] ++ s.innerEvents) =
        ((cb.endFile.runFrom v₁).1, (cb.endFile.runFrom v₁).2, s.events) := rfl
    cases hend : cb.endFile.runFrom v₁ with
    | mk answer v' =>
        rw [hend] at hlast
        refine ⟨_, answer, v', hlast, hend, ?_⟩
        cases answer with
        | ok value => exact .finished rfl hall hend
        | error fault =>
            have hevents : s.events = s.innerEvents ++ .endFile :: [] := rfl
            exact .failed hevents hall (Acting.runFrom_bind_of_error hend)
  · have hevents : s.events = before ++ e :: (after ++ [.endFile]) := by
      rw [Schema.events, hsplit, List.append_assoc, List.cons_append]
    exact ⟨_, _, _, Acting.runFrom_bind_of_error hlog, Acting.runFrom_bind_of_error hplain,
      .failed hevents hbefore hfails⟩

end Callbacks

end VulkanWire
