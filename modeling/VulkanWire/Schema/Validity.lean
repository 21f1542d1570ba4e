import VulkanWire.Schema.Basic

/-!
# Valid schemas

A schema is valid when no two features share a name and no feature introduces
one name twice, whatever the categories. `Schema.validate` reports the first
offence in reading order: a feature's name comes before its definitions.
-/

namespace VulkanWire

/-- How a schema can be malformed. -/
inductive SchemaError where
  | duplicateDefinition (feature name : String)
  | duplicateFeature (name : String)
deriving DecidableEq, Repr

namespace SchemaError

def message : SchemaError → String
  | duplicateDefinition feature name =>
    s!"Definition '{name}' is declared twice in feature '{feature}'"
  | duplicateFeature name => s!"Feature '{name}' is declared twice"

end SchemaError

/-- The first name of a list that repeats an earlier one or one already seen. -/
def firstRepeated? (seen : List String) : List String → Option String
  | [] => none
  | n :: rest => if n ∈ seen then some n else firstRepeated? (n :: seen) rest

namespace Feature

/-- The first name that the feature introduces for the second time. -/
def repeatedDefinition? (f : Feature) : Option String :=
  firstRepeated? [] (f.elements.map (·.name))

end Feature

namespace Schema

/-- The first offence in reading order, if there is one. -/
def offence? (s : Schema) : Option SchemaError :=
  go [] s.features
where
  /-- Reads features, given the names of those before. -/
  go (seen : List String) : List Feature → Option SchemaError
    | [] => none
    | f :: rest =>
      if f.name ∈ seen then some (.duplicateFeature f.name)
      else match f.repeatedDefinition? with
        | some name => some (.duplicateDefinition f.name name)
        | none => go (f.name :: seen) rest

/-- Accepts valid schemas and reports the first offence of any other. -/
def validate (s : Schema) : Except SchemaError Unit :=
  match s.offence? with
  | some e => .error e
  | none => .ok ()

end Schema

theorem firstRepeated?_eq_none_iff (seen names : List String) :
    firstRepeated? seen names = none ↔ names.Nodup ∧ ∀ n ∈ names, n ∉ seen := by
  induction names generalizing seen with
  | nil => simp [firstRepeated?]
  | cons n rest ih =>
    by_cases hn : n ∈ seen
    · simp [firstRepeated?, hn]
    · simp only [firstRepeated?, hn, if_false, ih, List.nodup_cons, List.mem_cons]
      constructor
      · rintro ⟨hnd, hseen⟩
        refine ⟨⟨fun h => hseen n h (Or.inl rfl), hnd⟩, ?_⟩
        rintro m (rfl | hm)
        · exact hn
        · exact fun h => hseen m hm (Or.inr h)
      · rintro ⟨⟨hnr, hnd⟩, hseen⟩
        refine ⟨hnd, fun m hm => ?_⟩
        rintro (rfl | h)
        · exact hnr hm
        · exact hseen m (Or.inr hm) h

end VulkanWire
