import VulkanWire.Proofs.Registry.Replay

/-!
# What a registry answers after changes

A registry has the records of its names, in order of first entry, and apart from
them the current feature; a change touches the one or the other. What it answers
can be read off the changes alone, by looking for the last change that counts:
the last recording of a name decides which definition is found under it and
which feature it has, and the last change that begins or ends a feature decides
whether one is current. The feature of a definition is the one that was current
when it was recorded, whatever begins or ends afterwards.

## Main definitions

* `LastWith` — the last element of a list with a property, and what is before it.
* `Mutation.CurrentAfter`, `Mutation.LastRecorded` — the feature that changes
  leave current, and what they record of a name last.
* `Registry.Answers` — a registry answers by the changes it has been through.

## Main results

* `lastWith_append_singleton` — how the last element changes with one more.
* `Registry.current_replay_iff`, `Registry.find?_replay_iff` — the current
  feature and the records after any changes.
* `Registry.answers_follow_changes` — all answers after any changes.
-/

namespace VulkanWire

universe u

/-! ## Last elements -/

/-- The last element of a list with a property, and what stands before it. -/
def LastWith {α : Type u} (p : α → Prop) (xs before : List α) (x : α) : Prop :=
  p x ∧ ∃ after, xs = before ++ x :: after ∧ ∀ y ∈ after, ¬ p y

section LastWith

variable {α : Type u} {p : α → Prop} {xs before : List α} {x : α}

theorem not_lastWith_nil : ¬ LastWith p [] before x := by
  rintro ⟨-, after, hsplit, -⟩
  simp at hsplit

/-- One more element is the last one with the property, or it is passed over. -/
theorem lastWith_append_singleton (y : α) :
    LastWith p (xs ++ [y]) before x ↔
      p y ∧ before = xs ∧ x = y ∨ ¬ p y ∧ LastWith p xs before x := by
  constructor
  · rintro ⟨hx, after, hsplit, hafter⟩
    -- nothing follows the last one, which is then the new element, or the new element does
    rcases List.eq_nil_or_concat after with rfl | ⟨after, z, rfl⟩
    · obtain ⟨rfl, hlast⟩ := List.append_inj' hsplit rfl
      obtain rfl := List.singleton_inj.mp hlast
      exact .inl ⟨hx, rfl, rfl⟩
    · rw [List.concat_eq_append, ← List.cons_append, ← List.append_assoc] at hsplit
      obtain ⟨rfl, hlast⟩ := List.append_inj' hsplit rfl
      obtain rfl := List.singleton_inj.mp hlast
      exact .inr ⟨hafter y (by simp), hx, after, rfl, fun z hz => hafter z (by simp [hz])⟩
  · rintro (⟨hy, rfl, rfl⟩ | ⟨hy, hx, after, rfl, hafter⟩)
    · exact ⟨hy, [], rfl, fun z hz => absurd hz List.not_mem_nil⟩
    · refine ⟨hx, after ++ [y], by simp, fun z hz => ?_⟩
      rcases List.mem_append.mp hz with hz | hz
      · exact hafter z hz
      · rwa [List.mem_singleton.mp hz]

end LastWith

/-! ## What changes come to -/

namespace Mutation

variable {ms before : List Mutation} {m : Mutation} {name : String} {kind : FeatureKind}
  {record : Record} {current : Option String}

/-- The name under which a change records a definition. -/
def registered? : Mutation → Option String
  | .record e => some e.name
  | .recordType d _ => some d.name
  | _ => none

/-- A change begins or ends a feature. -/
def TurnsFeature : Mutation → Prop
  | .beginFeature _ _ => True
  | .endFeature => True
  | _ => False

/-- A feature has begun last, and none has ended after it. -/
def CurrentAfter (ms : List Mutation) (name : String) (kind : FeatureKind) : Prop :=
  ∃ before, LastWith TurnsFeature ms before (.beginFeature name kind)

/-- What a change records after others: a definition goes under the feature that is current then,
unless another one is told. -/
inductive Records (before : List Mutation) : Mutation → Record → Prop
  | underCurrent {e : Element} {feature : Option String}
      (hcurrent : ∀ name, feature = some name ↔ ∃ kind, CurrentAfter before name kind) :
      Records before (.record e) ⟨e, feature⟩
  | underTold {d : TypeDef} {feature : Option String} :
      Records before (.recordType d feature) ⟨.type d, feature⟩

/-- What changes record last of a name. -/
def LastRecorded (ms : List Mutation) (name : String) (record : Record) : Prop :=
  ∃ before m, LastWith (fun m => m.registered? = some name) ms before m ∧ Records before m record

theorem not_currentAfter_nil : ¬ CurrentAfter [] name kind := by
  rintro ⟨before, h⟩
  exact not_lastWith_nil h

theorem not_lastRecorded_nil : ¬ LastRecorded [] name record := by
  rintro ⟨before, m, h, -⟩
  exact not_lastWith_nil h

theorem currentAfter_append_singleton (m : Mutation) :
    CurrentAfter (ms ++ [m]) name kind ↔
      m = .beginFeature name kind ∨ ¬ m.TurnsFeature ∧ CurrentAfter ms name kind := by
  simp only [CurrentAfter, lastWith_append_singleton]
  constructor
  · rintro ⟨before, ⟨-, -, hm⟩ | ⟨hm, hlast⟩⟩
    · exact .inl hm.symm
    · exact .inr ⟨hm, before, hlast⟩
  · rintro (rfl | ⟨hm, before, hlast⟩)
    · exact ⟨ms, .inl ⟨trivial, rfl, rfl⟩⟩
    · exact ⟨before, .inr ⟨hm, hlast⟩⟩

theorem lastRecorded_append_singleton (m : Mutation) :
    LastRecorded (ms ++ [m]) name record ↔
      m.registered? = some name ∧ Records ms m record ∨
        m.registered? ≠ some name ∧ LastRecorded ms name record := by
  simp only [LastRecorded, lastWith_append_singleton]
  constructor
  · rintro ⟨before, m', ⟨hm, rfl, rfl⟩ | ⟨hm, hlast⟩, hrecords⟩
    · exact .inl ⟨hm, hrecords⟩
    · exact .inr ⟨hm, before, m', hlast, hrecords⟩
  · rintro (⟨hm, hrecords⟩ | ⟨hm, before, m', hlast, hrecords⟩)
    · exact ⟨ms, m, .inl ⟨hm, rfl, rfl⟩, hrecords⟩
    · exact ⟨before, m', .inr ⟨hm, hlast⟩, hrecords⟩

/-- Told the feature that is current, a change records what it records after the changes before. -/
theorem recording?_eq_some_iff
    (hcurrent : ∀ name, current = some name ↔ ∃ kind, CurrentAfter before name kind) :
    m.recording? current = some record ↔ Records before m record := by
  constructor
  · intro h
    cases m with
    | record e =>
        obtain rfl := Option.some.inj h
        exact .underCurrent hcurrent
    | recordType d feature =>
        obtain rfl := Option.some.inj h
        exact .underTold
    | beginFeature name kind => cases h
    | endFeature => cases h
    | finish => cases h
  · intro h
    cases h with
    | @underCurrent e feature hfeature =>
        have hsame : current = feature :=
          Option.ext fun name => (hcurrent name).trans (hfeature name).symm
        rw [hsame]
        rfl
    | underTold => rfl

theorem map_name_recordings (current : Option String) (ms : List Mutation) :
    (recordings current ms).map (·.definition.name) = ms.filterMap registered? := by
  induction ms generalizing current with
  | nil => rfl
  | cons m ms ih =>
      rw [recordings, List.map_append, ih]
      cases m <;> rfl

end Mutation

/-! ## What a registry answers -/

namespace Registry

open Mutation (CurrentAfter LastRecorded)

variable {ms : List Mutation} {name : String} {kind : FeatureKind}

theorem replay_append_singleton (ms : List Mutation) (m : Mutation) :
    replay (ms ++ [m]) = (replay ms).apply m :=
  List.foldl_concat ..

/-- The current feature is the one that has begun last, unless one has ended after it. -/
theorem current_replay_iff (ms : List Mutation) (name : String) (kind : FeatureKind) :
    (replay ms).current = some (name, kind) ↔ CurrentAfter ms name kind := by
  induction ms using List.reverseRecOn with
  | nil => exact iff_of_false nofun Mutation.not_currentAfter_nil
  | append_singleton ms m ih =>
      rw [replay_append_singleton, Mutation.currentAfter_append_singleton]
      cases m with
      | beginFeature name' kind' => simp [apply, beginFeature, Mutation.TurnsFeature]
      | endFeature => simp [apply, endFeature, Mutation.TurnsFeature]
      | finish => simpa [apply, finish, Mutation.TurnsFeature] using ih
      | record e => simpa [apply, current_record, Mutation.TurnsFeature] using ih
      | recordType d feature => simpa [apply, recordUnder, Mutation.TurnsFeature] using ih

theorem currentFeature?_replay_iff (ms : List Mutation) (name : String) :
    (replay ms).currentFeature? = some name ↔ ∃ kind, CurrentAfter ms name kind := by
  rw [currentFeature?, Option.map_eq_some_iff]
  constructor
  · rintro ⟨⟨_, kind⟩, hcurrent, rfl⟩
    exact ⟨kind, (current_replay_iff ms _ kind).mp hcurrent⟩
  · rintro ⟨kind, hcurrent⟩
    exact ⟨(name, kind), (current_replay_iff ms name kind).mpr hcurrent, rfl⟩

/-- A change replaces the record of the name that it records, and of no other. -/
theorem find?_apply (r : Registry) (m : Mutation) (name : String) :
    (r.apply m).find? name =
      if m.registered? = some name then m.recording? r.currentFeature? else r.find? name := by
  cases m with
  | record e => simp [apply, find?_record, Mutation.registered?, Mutation.recording?]
  | recordType d feature =>
      rw [apply, find?_recordUnder]
      by_cases hname : d.name = name <;>
        simp [Mutation.registered?, Mutation.recording?, Element.name, hname]
  | _ => rfl

/-- Under a name stands what was recorded of it last. -/
theorem find?_replay_iff (ms : List Mutation) (name : String) (record : Record) :
    (replay ms).find? name = some record ↔ LastRecorded ms name record := by
  induction ms using List.reverseRecOn with
  | nil => exact iff_of_false nofun Mutation.not_lastRecorded_nil
  | append_singleton ms m ih =>
      rw [replay_append_singleton, find?_apply, Mutation.lastRecorded_append_singleton]
      by_cases hname : m.registered? = some name
      · rw [if_pos hname, Mutation.recording?_eq_some_iff (currentFeature?_replay_iff ms)]
        simp [hname]
      · rw [if_neg hname, ih]
        simp [hname]

/-- A registry answers by the changes that it has been through. -/
structure Answers (ms : List Mutation) (r : Registry) : Prop where
  /-- The names, in the order in which they were recorded first. -/
  names : r.names = (ms.filterMap Mutation.registered?).eraseDups
  /-- Each name is listed once. -/
  nodup : r.names.Nodup
  contains : ∀ name, r.contains name = true ↔ name ∈ r.names
  found : ∀ name, (r.find? name).isSome = true ↔ name ∈ r.names
  size : r.size = r.names.length
  isEmpty : r.isEmpty = true ↔ r.names = []
  /-- The definition that was recorded last, of whatever category. -/
  definition : ∀ name e, r.definition? name = some e ↔ ∃ feature, LastRecorded ms name ⟨e, feature⟩
  /-- The feature that it was recorded under. -/
  featureOf : ∀ name feature,
    r.featureOf? name = some feature ↔ ∃ e, LastRecorded ms name ⟨e, some feature⟩
  current : ∀ name, r.currentFeature? = some name ↔ ∃ kind, CurrentAfter ms name kind
  /-- Features that begin or end later do not change the record of a name, nor does what is recorded
  of others. -/
  lasting : ∀ later name, (∀ m ∈ later, m.registered? ≠ some name) →
    (replay (ms ++ later)).find? name = r.find? name

/-- The record of a name stays as long as nothing else is recorded of it. -/
theorem find?_replay_append {later : List Mutation}
    (h : ∀ m ∈ later, m.registered? ≠ some name) :
    (replay (ms ++ later)).find? name = (replay ms).find? name := by
  induction later using List.reverseRecOn with
  | nil => rw [List.append_nil]
  | append_singleton later m ih =>
      rw [← List.append_assoc, replay_append_singleton, find?_apply, if_neg (h m (by simp))]
      exact ih fun m' hm' => h m' (List.mem_append_left _ hm')

theorem names_replay (ms : List Mutation) :
    (replay ms).names = (ms.filterMap Mutation.registered?).eraseDups := by
  rw [(gains_replay ms).names, Mutation.map_name_recordings]

/-- After any changes of an empty registry, it answers by them: names stand in the order of their
first recording, the last recording of a name decides what is found under it, and the last beginning
or end of a feature which one is current. -/
theorem answers_follow_changes (ms : List Mutation) : Answers ms (replay ms) where
  names := names_replay ms
  nodup := names_replay ms ▸ nodup_eraseDups _
  contains := Ledger.find?_isSome_iff _
  found := Ledger.find?_isSome_iff _
  size := (List.length_map _).symm
  isEmpty := by
    rw [isEmpty, List.isEmpty_iff]
    exact List.map_eq_nil_iff.symm
  definition name e := by
    simp only [← find?_replay_iff, definition?, Option.map_eq_some_iff]
    constructor
    · rintro ⟨⟨_, feature⟩, hrecord, rfl⟩
      exact ⟨feature, hrecord⟩
    · rintro ⟨feature, hrecord⟩
      exact ⟨_, hrecord, rfl⟩
  featureOf name feature := by
    simp only [← find?_replay_iff, featureOf?, Option.bind_eq_some_iff]
    constructor
    · rintro ⟨⟨e, _⟩, hrecord, rfl⟩
      exact ⟨e, hrecord⟩
    · rintro ⟨e, hrecord⟩
      exact ⟨_, hrecord, rfl⟩
  current := currentFeature?_replay_iff ms
  lasting _ _ := find?_replay_append

/-- A type is recorded outside of all features, and inside one a struct of the same name. -/
def reusedName : List Mutation :=
  [.recordType { name := "VkExtent" } none, .record (.type { name := "int" }),
    .beginFeature "VK_VERSION_1_0" .core, .record (.struct { name := "VkExtent" }), .endFeature]

example :
    (replay reusedName).names = ["VkExtent", "int"] ∧
      (replay reusedName).featureOf? "VkExtent" = some "VK_VERSION_1_0" ∧
      (replay reusedName).currentFeature? = none := by
  decide

end Registry

end VulkanWire
