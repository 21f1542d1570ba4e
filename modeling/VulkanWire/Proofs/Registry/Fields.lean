import Mathlib.Data.Finset.Card
import VulkanWire.Proofs.Ledger
import VulkanWire.Proofs.Registry.Replay

/-!
# A registry in fields of its own

A ledger keeps its names together with their values. They can also be kept
apart, as a map that finds the values and a list of the names, to which a name
is added if the map has found nothing under it so far. Nothing in such fields
makes them agree but the changes that they go through.

They do agree: after any changes, the list has just the names that there are
records under. And they hold what a registry holds that goes through the same
changes; `Registry.fields` reads them off it.

## Main definitions

* `Registry.Fields` — a registry as a list of names and maps.
* `Registry.Fields.InStep` — the list has just the names that the map knows.
* `Registry.fields` — the fields that hold what a registry holds.

## Main results

* `Registry.Fields.inStep_replay` — after any changes, the fields are in step.
* `Registry.fields_apply`, `Registry.fields_replay` — the fields change as the
  registry does.
-/

namespace VulkanWire

namespace Registry

/-- A registry as a list of names and maps, each given by what is found in it. -/
structure Fields where
  records : String → Option Record := fun _ => none
  aliases : String → Option String := fun _ => none
  /-- The names of the records in order of first entry. -/
  order : List String := []
  current : Option (String × FeatureKind) := none
  featureKinds : String → Option FeatureKind := fun _ => none
  commandFeatures : String → Option String := fun _ => none
  finished : Bool := false

namespace Fields

/-! ## Changes -/

/-- Enters a record under its name. -/
def insert (f : Fields) (record : Record) : Fields :=
  let name := record.definition.name
  { f with
    aliases := match record.definition.aliasOf with
      | some target => Function.update f.aliases name (some target)
      | none => f.aliases
    order := if (f.records name).isSome then f.order else f.order ++ [name]
    records := Function.update f.records name (some record) }

/-- Enters the current feature under a command, if there is one. -/
def noteCommand (f : Fields) (e : Element) : Fields :=
  match e, f.current.map (·.1) with
  | .command d, some feature =>
    { f with commandFeatures := Function.update f.commandFeatures d.name (some feature) }
  | _, _ => f

/-- Enters a definition under the current feature. -/
def record (f : Fields) (e : Element) : Fields :=
  (f.noteCommand e).insert ⟨e, f.current.map (·.1)⟩

/-- The fields after a change. -/
def apply (f : Fields) : Mutation → Fields
  | .beginFeature name kind =>
    { f with
      featureKinds := Function.update f.featureKinds name (some kind), current := some (name, kind) }
  | .endFeature => { f with current := none }
  | .finish => { f with finished := true }
  | .record e => f.record e
  | .recordType d feature => f.insert ⟨.type d, feature⟩

/-- The fields after changes, one after the other, to empty ones. -/
def replay (ms : List Mutation) : Fields := ms.foldl apply {}

/-! ## List and map -/

/-- The list has each name once that there is a record under, and no other. -/
structure InStep (f : Fields) : Prop where
  nodup : f.order.Nodup
  mem_order_iff : ∀ name, name ∈ f.order ↔ (f.records name).isSome = true

variable {f : Fields}

theorem InStep.insert (h : f.InStep) (record : Record) : (f.insert record).InStep where
  nodup := by
    show (if _ then f.order else f.order ++ [record.definition.name]).Nodup
    split
    · exact h.nodup
    · rename_i hnew
      rw [← h.mem_order_iff] at hnew
      exact h.nodup.append (List.nodup_singleton _) (List.disjoint_singleton.mpr hnew)
  mem_order_iff := by
    intro name
    show name ∈ (if _ then f.order else f.order ++ [record.definition.name]) ↔
      (Function.update f.records record.definition.name (some record) name).isSome = true
    by_cases hsame : name = record.definition.name
    · subst hsame
      rw [Function.update_self]
      split
      · rename_i hknown
        exact iff_of_true ((h.mem_order_iff _).mpr hknown) rfl
      · exact iff_of_true List.mem_concat_self rfl
    · rw [Function.update_of_ne hsame, ← h.mem_order_iff name]
      split
      · exact Iff.rfl
      · simp [hsame]

/-- What else changes in the fields does not matter. -/
theorem InStep.congr (h : f.InStep) {f' : Fields} (horder : f'.order = f.order)
    (hrecords : f'.records = f.records) : f'.InStep where
  nodup := horder ▸ h.nodup
  mem_order_iff := by
    rw [horder, hrecords]
    exact h.mem_order_iff

theorem InStep.noteCommand (h : f.InStep) (e : Element) : (f.noteCommand e).InStep := by
  unfold Fields.noteCommand
  split
  · exact h.congr rfl rfl
  · exact h

theorem InStep.apply (h : f.InStep) (m : Mutation) : (f.apply m).InStep := by
  cases m with
  | beginFeature name kind => exact h.congr rfl rfl
  | endFeature => exact h.congr rfl rfl
  | finish => exact h.congr rfl rfl
  | record e => exact (h.noteCommand e).insert _
  | recordType d feature => exact h.insert _

/-- After any changes, the list has just the names that there are records under. -/
theorem inStep_replay (ms : List Mutation) : (replay ms).InStep := by
  induction ms using List.reverseRecOn with
  | nil => exact ⟨List.nodup_nil, fun _ => iff_of_false List.not_mem_nil Bool.false_ne_true⟩
  | append_singleton ms m ih =>
      rw [replay, List.foldl_concat]
      exact ih.apply m

/-- So there are as many names as records, however those are counted. -/
theorem InStep.card_eq (h : f.InStep) {names : Finset String}
    (hnames : ∀ name, name ∈ names ↔ (f.records name).isSome = true) :
    names.card = f.order.length := by
  have hlisted : names = f.order.toFinset := by
    ext name
    rw [hnames, List.mem_toFinset, h.mem_order_iff]
  rw [hlisted, List.toFinset_card_of_nodup h.nodup]

end Fields

/-! ## The fields of a registry -/

/-- The fields that hold what a registry holds. -/
def fields (r : Registry) : Fields where
  records := r.records.find?
  aliases := r.aliases.find?
  order := r.names
  current := r.current
  featureKinds := r.featureKinds.find?
  commandFeatures := r.commandFeatures.find?
  finished := r.finished

variable (r : Registry)

theorem fields_recordUnder (feature : Option String) (e : Element) :
    (r.recordUnder feature e).fields = r.fields.insert ⟨e, feature⟩ := by
  have haliases : (r.recordUnder feature e).aliases.find? =
      (r.fields.insert ⟨e, feature⟩).aliases := by
    show (match e.aliasOf with
      | some target => r.aliases.insert e.name target
      | none => r.aliases).find? = match e.aliasOf with
      | some target => Function.update r.aliases.find? e.name (some target)
      | none => r.aliases.find?
    cases e.aliasOf with
    | none => rfl
    | some target => exact r.aliases.find?_insert_eq_update e.name target
  have hrecords := r.records.find?_insert_eq_update e.name ⟨e, feature⟩
  have horder := r.records.names_insert_eq_ite e.name ⟨e, feature⟩
  show Fields.mk (r.records.insert e.name ⟨e, feature⟩).find? _
    (r.records.insert e.name ⟨e, feature⟩).names _ _ _ _ = _
  rw [haliases, hrecords, horder]
  rfl

theorem fields_noteCommand (e : Element) : (r.noteCommand e).fields = r.fields.noteCommand e := by
  have hcurrent : r.fields.current.map (·.1) = r.currentFeature? := rfl
  unfold noteCommand Fields.noteCommand
  rw [hcurrent]
  cases e with
  | command d =>
      cases r.currentFeature? with
      | none => rfl
      | some feature =>
          show Fields.mk _ _ _ _ _ (r.commandFeatures.insert d.name feature).find? _ = _
          rw [Ledger.find?_insert_eq_update]
          rfl
  | _ => rfl

theorem fields_record (e : Element) : (r.record e).fields = r.fields.record e := by
  rw [record, fields_recordUnder, fields_noteCommand]
  rfl

/-- The fields change as the registry does. -/
theorem fields_apply (m : Mutation) : (r.apply m).fields = r.fields.apply m := by
  cases m with
  | beginFeature name kind =>
      show Fields.mk _ _ _ _ (r.featureKinds.insert name kind).find? _ _ = _
      rw [Ledger.find?_insert_eq_update]
      rfl
  | endFeature => rfl
  | finish => rfl
  | record e => exact r.fields_record e
  | recordType d feature => exact r.fields_recordUnder feature (.type d)

/-- After any changes, the fields hold what the registry holds. -/
theorem fields_replay (ms : List Mutation) : (replay ms).fields = Fields.replay ms := by
  induction ms using List.reverseRecOn with
  | nil => rfl
  | append_singleton ms m ih =>
      rw [replay, List.foldl_concat, fields_apply, Fields.replay, List.foldl_concat]
      exact congrArg (·.apply m) ih

end Registry

end VulkanWire
