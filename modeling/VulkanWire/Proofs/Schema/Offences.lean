import Mathlib.Data.List.Nodup
import VulkanWire.Proofs.Schema.Paring

/-!
# Offences

Validation reads a schema item by item: the name of a feature, then the
definitions of the feature, then the next feature. Two items repeat one another
when both are features of one name, or when both are definitions of one name in
one and the same feature. What validation reports is the first item that repeats
an earlier one, and a schema without such an item is valid.

## Main definitions

* `FirstRepetition` — the first entry of a list that equals an earlier one.
* `Schema.items` — what validation reads, in its order.

## Main results

* `firstRepeated?_eq_some_iff` — the search for a repeated name finds the first.
* `Schema.first_offence_reported` — what validation answers for any schema.
-/

namespace VulkanWire

/-! ## First repetitions -/

section Repetition

variable {α : Type} {before entries : List α} {x y : α}

/-- The first entry of a list that equals an earlier one. -/
def FirstRepetition (entries : List α) (x : α) : Prop :=
  ∃ before after, entries = before ++ x :: after ∧ before.Nodup ∧ x ∈ before

theorem FirstRepetition.not_nodup (h : FirstRepetition entries x) : ¬ entries.Nodup := by
  obtain ⟨before, after, rfl, -, hx⟩ := h
  intro hnodup
  exact List.disjoint_of_nodup_append hnodup hx List.mem_cons_self

/-- Behind distinct entries, one of them is the first repetition of any list that goes on so. -/
theorem firstRepetition_iff_eq (hbefore : before.Nodup) (hx : x ∈ before) (after : List α) :
    FirstRepetition (before ++ x :: after) y ↔ y = x := by
  constructor
  · rintro ⟨before', after', hsplit, hbefore', hy⟩
    -- Were one place before the other, the later one would have a repetition in front of it.
    rcases List.append_eq_append_iff.mp hsplit with ⟨between, rfl, htail⟩ | ⟨between, rfl, htail⟩
    · cases between with
      | nil =>
          injection htail with hhead
          exact hhead.symm
      | cons z between =>
          injection htail with hhead
          subst hhead
          exact absurd hbefore' (FirstRepetition.not_nodup ⟨before, between, rfl, hbefore, hx⟩)
    · cases between with
      | nil =>
          injection htail
      | cons z between =>
          injection htail with hhead
          subst hhead
          exact absurd hbefore (FirstRepetition.not_nodup ⟨before', between, rfl, hbefore', hy⟩)
  · rintro rfl
    exact ⟨before, after, rfl, hbefore, hx⟩

end Repetition

/-- Behind distinct names that have been read, the search finds the first repetition. -/
theorem firstRepeated?_eq_some_iff {read seen : List String} (hread : read.Nodup)
    (hseen : ∀ n, n ∈ seen ↔ n ∈ read) (names : List String) (name : String) :
    firstRepeated? seen names = some name ↔ FirstRepetition (read ++ names) name := by
  induction names generalizing read seen with
  | nil =>
      rw [firstRepeated?, List.append_nil]
      exact iff_of_false (by simp) fun h => h.not_nodup hread
  | cons n names ih =>
      rw [firstRepeated?]
      by_cases hn : n ∈ seen
      · rw [if_pos hn, firstRepetition_iff_eq hread ((hseen n).mp hn), Option.some_inj, eq_comm]
      · have hnew : n ∉ read := mt (hseen n).mpr hn
        have hread' : (read ++ [n]).Nodup :=
          List.nodup_append_comm.mp (List.nodup_cons.mpr ⟨hnew, hread⟩)
        have hseen' : ∀ m, m ∈ n :: seen ↔ m ∈ read ++ [n] := by
          intro m
          rw [List.mem_cons, List.mem_append, List.mem_singleton, hseen, or_comm]
        rw [if_neg hn, ih hread' hseen', List.append_assoc, List.singleton_append]

theorem firstRepeated?_nil_eq_some_iff (names : List String) (name : String) :
    firstRepeated? [] names = some name ↔ FirstRepetition names name :=
  firstRepeated?_eq_some_iff List.nodup_nil (fun _ => Iff.rfl) names name

theorem firstRepeated?_nil_eq_none_iff (names : List String) :
    firstRepeated? [] names = none ↔ names.Nodup := by
  rw [firstRepeated?_eq_none_iff]
  exact and_iff_left (by simp)

/-! ## What validation reads -/

/-- An item of a schema. Two items are equal when one repeats the other. -/
inductive SchemaItem where
  | feature (name : String)
  /-- A definition, with the place and the name of the feature that it stands in. -/
  | definition (place : Nat) (owner name : String)
deriving DecidableEq, Repr

/-- How the repetition of an item is reported. -/
def SchemaItem.offence : SchemaItem → SchemaError
  | feature name => .duplicateFeature name
  | definition _ owner name => .duplicateDefinition owner name

/-- The name of a feature that stands at a place, then definitions in it. -/
def featureItems (place : Nat) (owner : String) (names : List String) : List SchemaItem :=
  .feature owner :: names.map (.definition place owner)

/-- The items of a feature that stands at a place. -/
def Feature.items (f : Feature) (place : Nat) : List SchemaItem :=
  featureItems place f.name (f.elements.map (·.name))

namespace Schema

/-- The items of features that stand one after the other from a place on. -/
def itemsFrom (place : Nat) (fs : List Feature) : List SchemaItem :=
  (fs.zipIdx place).flatMap fun p => p.1.items p.2

/-- The items of a schema, in reading order. -/
def items (s : Schema) : List SchemaItem := itemsFrom 0 s.features

theorem itemsFrom_cons (place : Nat) (f : Feature) (fs : List Feature) :
    itemsFrom place (f :: fs) = f.items place ++ itemsFrom (place + 1) fs := rfl

/-- What is known when the features before a place have been read without offence: no item repeats
another, and the names that have been seen are those of the features. -/
structure HasRead (seen : List String) (place : Nat) (read : List SchemaItem) : Prop where
  nodup : read.Nodup
  feature_mem : ∀ name, .feature name ∈ read ↔ name ∈ seen
  place_lt : ∀ place' owner name, .definition place' owner name ∈ read → place' < place

section Reading

variable {seen names : List String} {place : Nat} {read : List SchemaItem} {owner : String}

/-- A new feature repeats nothing, as far as its definitions are distinct. -/
theorem HasRead.nodup_append (h : HasRead seen place read) (hnew : owner ∉ seen)
    (hnames : names.Nodup) : (read ++ featureItems place owner names).Nodup := by
  have hitems : (featureItems place owner names).Nodup := by
    apply List.nodup_cons.mpr
    refine ⟨by simp, List.Nodup.map ?_ hnames⟩
    intro name name' heq
    injection heq
  apply List.Nodup.append h.nodup hitems
  intro item hread hitem
  rcases List.mem_cons.mp hitem with rfl | hdefinition
  · exact hnew ((h.feature_mem owner).mp hread)
  · obtain ⟨name, -, rfl⟩ := List.mem_map.mp hdefinition
    exact Nat.lt_irrefl place (h.place_lt place owner name hread)

/-- Reading on over a feature without offence. -/
theorem HasRead.append {f : Feature} (h : HasRead seen place read) (hnew : f.name ∉ seen)
    (hnames : (f.elements.map (·.name)).Nodup) :
    HasRead (f.name :: seen) (place + 1) (read ++ f.items place) where
  nodup := h.nodup_append hnew hnames
  feature_mem := by
    intro name
    rw [Feature.items, featureItems, List.mem_append, h.feature_mem, List.mem_cons,
      List.mem_cons]
    simp only [SchemaItem.feature.injEq, List.mem_map, reduceCtorEq, and_false, exists_false,
      or_false]
    exact or_comm
  place_lt := by
    intro place' owner name hmem
    rcases List.mem_append.mp hmem with hread | hitem
    · have hlt := h.place_lt place' owner name hread
      omega
    · have hsame : place = place' := by
        rcases List.mem_cons.mp hitem with hfeature | hdefinition
        · injection hfeature
        · obtain ⟨name', -, heq⟩ := List.mem_map.mp hdefinition
          injection heq
      omega

/-- From a place on, reading reports the first item that repeats an earlier one, be it before that
place or behind it. -/
theorem offence?_go_eq_some_iff (h : HasRead seen place read) (fs : List Feature)
    (e : SchemaError) :
    offence?.go seen fs = some e ↔
      ∃ item, FirstRepetition (read ++ itemsFrom place fs) item ∧ e = item.offence := by
  induction fs generalizing seen place read with
  | nil =>
      have hnothing : read ++ itemsFrom place [] = read := List.append_nil read
      rw [offence?.go, hnothing]
      apply iff_of_false (by simp)
      rintro ⟨item, hrepeated, -⟩
      exact hrepeated.not_nodup h.nodup
  | cons f fs ih =>
      rw [offence?.go, itemsFrom_cons]
      by_cases hseen : f.name ∈ seen
      · have hfirst : ∀ item, FirstRepetition (read ++ (f.items place ++ itemsFrom (place + 1) fs))
            item ↔ item = .feature f.name := fun item =>
          firstRepetition_iff_eq h.nodup ((h.feature_mem f.name).mpr hseen) _
        rw [if_pos hseen]
        simp only [hfirst, exists_eq_left, SchemaItem.offence, Option.some_inj]
        exact eq_comm
      · rw [if_neg hseen, ← List.append_assoc]
        cases hrepeated : f.repeatedDefinition? with
        | none =>
            exact ih (h.append hseen ((firstRepeated?_nil_eq_none_iff _).mp hrepeated))
        | some name =>
            obtain ⟨earlier, later, hsplit, hearlier, hname⟩ :=
              (firstRepeated?_nil_eq_some_iff _ name).mp hrepeated
            -- The feature with its definitions up to the repeated one is distinct from all before.
            have hitems : read ++ f.items place ++ itemsFrom (place + 1) fs =
                (read ++ featureItems place f.name earlier) ++ .definition place f.name name ::
                  (later.map (.definition place f.name) ++ itemsFrom (place + 1) fs) := by
              rw [Feature.items, featureItems, featureItems, hsplit]
              simp only [List.map_append, List.map_cons, List.append_assoc, List.cons_append]
            have hmem : SchemaItem.definition place f.name name ∈
                read ++ featureItems place f.name earlier :=
              List.mem_append_right _ (List.mem_cons_of_mem _ (List.mem_map_of_mem hname))
            rw [hitems]
            simp only [firstRepetition_iff_eq (h.nodup_append hseen hearlier) hmem, exists_eq_left,
              SchemaItem.offence, Option.some_inj]
            exact eq_comm

end Reading

/-! ## What validation answers -/

theorem hasRead_nil : HasRead [] 0 [] where
  nodup := List.nodup_nil
  feature_mem := by simp
  place_lt := by simp

theorem validate_eq_error_iff (s : Schema) (e : SchemaError) :
    s.validate = .error e ↔ s.offence? = some e := by
  rw [validate]
  cases s.offence? <;> simp

/-- Each feature of a schema is judged for itself, once the names of the features are distinct. -/
theorem validate_eq_ok_iff_each (s : Schema) :
    s.validate = .ok () ↔
      (s.features.map (·.name)).Nodup ∧ ∀ f ∈ s.features, Schema.validate ⟨[f]⟩ = .ok () := by
  have halone : ∀ f : Feature, Schema.validate ⟨[f]⟩ = .ok () ↔ (f.elements.map (·.name)).Nodup := by
    intro f
    rw [validate_eq_ok_iff]
    simp
  simp only [halone, validate_eq_ok_iff]

/-- A schema is valid exactly if its features have distinct names and, in each feature, the
definitions of all categories have distinct names; so a name that repeats in different features only
is no offence, and each feature is judged for itself. For any other schema, the report is about the
first item in reading order that repeats an earlier one. -/
theorem first_offence_reported (s : Schema) :
    (s.validate = .ok () ↔
      (s.features.map (·.name)).Nodup ∧ ∀ f ∈ s.features, (f.elements.map (·.name)).Nodup) ∧
    (s.validate = .ok () ↔
      (s.features.map (·.name)).Nodup ∧ ∀ f ∈ s.features, Schema.validate ⟨[f]⟩ = .ok ()) ∧
    ∀ e, s.validate = .error e ↔
      ∃ item, FirstRepetition s.items item ∧ e = item.offence := by
  refine ⟨s.validate_eq_ok_iff, s.validate_eq_ok_iff_each, ?_⟩
  intro e
  rw [validate_eq_error_iff]
  exact offence?_go_eq_some_iff hasRead_nil s.features e

/-- A definition that repeats inside the second feature is reported, although it also stands in the
first feature and the name of that feature repeats later. -/
example : validate ⟨[
    { name := "VK_VERSION_1_0", elements := [.type { name := "VkFlags" }] },
    { name := "VK_KHR_surface", elements := [.type { name := "VkFlags" },
      .command { name := "vkDoIt" }, .struct { name := "VkFlags" }] },
    { name := "VK_VERSION_1_0" }]⟩ =
    .error (.duplicateDefinition "VK_KHR_surface" "VkFlags") := by
  decide

end Schema

end VulkanWire
