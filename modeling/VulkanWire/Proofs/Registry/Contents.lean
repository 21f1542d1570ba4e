import VulkanWire.Proofs.Generator.Origins
import VulkanWire.Proofs.Generator.Text
import VulkanWire.Proofs.Ledger
import VulkanWire.Proofs.Schema.Paring

/-!
# What a run leaves in the registry

A run records the definitions of supported features and, of all others, the
exception types, feature by feature and each feature in its traversal order.
Every look-up in the registry then has its answer in that list: names stand in
the order of their first record, and the last record of a name decides what is
found under it.

## Main definitions

* `Schema.recorded` — what a run records, in order.
* `Registry.Gains` — what a step adds to a registry.
* `Registry.Holds` — the registry answers every look-up by what is recorded.

## Main results

* `Registry.gains_through` — what a feature adds.
* `Registry.exists_gains_of_mem_script` — by every cue, the beginning of what is
  recorded has been added.
* `Registry.Gains.exists_of_isStruct` — what a name stands for that is found to be
  a struct.
* `Registry.holds_finalRegistry` — the registry of a schema holds what is recorded.
* `Generator.registry_after_run` — and so does the registry of a run.
-/

namespace VulkanWire

/-! ## What is recorded -/

namespace Record

/-- The entry of a record. -/
def entry (r : Record) : String × Record := (r.definition.name, r)

/-- The entry of a command's feature. -/
def commandEntry? (r : Record) : Option (String × String) :=
  match r.definition, r.feature with
  | .command d, some feature => some (d.name, feature)
  | _, _ => none

/-- Commands in a feature have an entry, and nothing else has. -/
theorem commandEntry?_eq (r : Record) :
    r.commandEntry? =
      if r.definition.category = .command then r.feature.map (r.definition.name, ·) else none := by
  obtain ⟨definition, feature⟩ := r
  cases definition <;> cases feature <;> rfl

/-- The entry of an alias. -/
def aliasEntry? (r : Record) : Option (String × String) :=
  r.definition.aliasOf.map (r.definition.name, ·)

/-- The last record of a name. -/
def last? (rs : List Record) (name : String) : Option Record :=
  (rs.filter fun r => r.definition.name = name).getLast?

/-- The last record of a command with a name. -/
def lastCommand? (rs : List Record) (name : String) : Option Record :=
  (rs.filter fun r => r.definition.category = .command ∧ r.definition.name = name).getLast?

end Record

/-- What a run records of a feature: all of a supported one, and of any other what is kept. -/
def Feature.recorded (gate : FeatureGate) (f : Feature) : List Record :=
  (f.orderedElements.filter fun e => gate.isSupported f.name || gate.keeps e).map
    fun e => ⟨e, some f.name⟩

/-- What a run records, in order. -/
def Schema.recorded (s : Schema) (gate : FeatureGate) : List Record :=
  s.features.flatMap (·.recorded gate)

/-- Of the small schema, the version's command and the extension's exception type. -/
example : Generator.sampleSchema.recorded Generator.sampleGate =
    [⟨.command { name := "vkDoIt" }, some "VK_VERSION_1_0"⟩,
      ⟨.type { name := "int" }, some "VK_EXT_more"⟩] := by
  decide

/-! ## Recording, step by step -/

namespace Registry

/-- The second registry has what the first has, and after it the given records and kinds. -/
structure Gains (rs : List Record) (kinds : List (String × FeatureKind)) (r r' : Registry) :
    Prop where
  records : r'.records = r.records.insertAll (rs.map Record.entry)
  commandFeatures :
    r'.commandFeatures = r.commandFeatures.insertAll (rs.filterMap Record.commandEntry?)
  featureKinds : r'.featureKinds = r.featureKinds.insertAll kinds
  aliases : r'.aliases = r.aliases.insertAll (rs.filterMap Record.aliasEntry?)

variable {gate : FeatureGate} {r r' r'' : Registry} {feature : String}

theorem Gains.refl (r : Registry) : Gains [] [] r r := ⟨rfl, rfl, rfl, rfl⟩

theorem Gains.trans {rs rs' : List Record} {kinds kinds' : List (String × FeatureKind)}
    (h : Gains rs kinds r r') (h' : Gains rs' kinds' r' r'') :
    Gains (rs ++ rs') (kinds ++ kinds') r r'' where
  records := by rw [h'.records, h.records, List.map_append, Ledger.insertAll_append]
  commandFeatures := by
    rw [h'.commandFeatures, h.commandFeatures, List.filterMap_append, Ledger.insertAll_append]
  featureKinds := by rw [h'.featureKinds, h.featureKinds, Ledger.insertAll_append]
  aliases := by rw [h'.aliases, h.aliases, List.filterMap_append, Ledger.insertAll_append]

/-- A definition leaves an alias link behind if it is an alias. -/
theorem aliases_recordUnder (r : Registry) (feature : Option String) (e : Element) :
    (r.recordUnder feature e).aliases =
      r.aliases.insertAll ([⟨e, feature⟩].filterMap Record.aliasEntry?) := by
  rw [recordUnder]
  cases halias : e.aliasOf with
  | none => rw [List.filterMap_cons_none (by rw [Record.aliasEntry?, halias]; rfl)]; rfl
  | some target => rw [List.filterMap_cons_some (by rw [Record.aliasEntry?, halias]; rfl)]; rfl

/-- A definition is recorded under the current feature, if there is one. -/
theorem gains_record_current (r : Registry) (e : Element) :
    Gains [⟨e, r.currentFeature?⟩] [] r (r.record e) where
  records := by
    show (r.noteCommand e).records.insert e.name ⟨e, r.currentFeature?⟩ = _
    rw [records_noteCommand]
    rfl
  commandFeatures := by
    show (r.noteCommand e).commandFeatures = _
    cases h : r.currentFeature? <;> cases e <;> simp only [noteCommand, h] <;> rfl
  featureKinds := by
    show (r.noteCommand e).featureKinds = _
    unfold noteCommand
    split <;> rfl
  aliases := by
    have hnote : (r.noteCommand e).aliases = r.aliases := by
      unfold noteCommand
      split <;> rfl
    rw [record, aliases_recordUnder, hnote]

/-- Inside a feature, every definition is recorded under it. -/
theorem gains_record (h : r.currentFeature? = some feature) (e : Element) :
    Gains [⟨e, some feature⟩] [] r (r.record e) :=
  h ▸ gains_record_current r e

theorem gains_recordAll (h : r.currentFeature? = some feature) (es : List Element) :
    Gains (es.map fun e => ⟨e, some feature⟩) [] r (r.recordAll es) := by
  induction es generalizing r with
  | nil => exact Gains.refl r
  | cons e es ih => exact (gains_record h e).trans (ih ((currentFeature?_record e).trans h))

/-- A definition that is kept is no command. -/
theorem commandEntry?_kept {e : Element} (h : gate.keeps e = true) (feature : Option String) :
    Record.commandEntry? ⟨e, feature⟩ = none := by
  cases e with
  | command d => cases h
  | _ => rfl

/-- So outside a supported feature, no command gets one. -/
theorem gains_recordUnder {e : Element} (h : gate.keeps e = true) (r : Registry)
    (feature : String) :
    Gains [⟨e, some feature⟩] [] r (r.recordUnder (some feature) e) where
  records := rfl
  commandFeatures := by
    rw [List.filterMap_cons_none (commandEntry?_kept h _)]
    rfl
  featureKinds := rfl
  aliases := aliases_recordUnder r (some feature) e

theorem gains_foldl_recordUnder {es : List Element} (h : ∀ e ∈ es, gate.keeps e = true)
    (r : Registry) (feature : String) :
    Gains (es.map fun e => ⟨e, some feature⟩) [] r
      (es.foldl (fun r e => r.recordUnder (some feature) e) r) := by
  induction es generalizing r with
  | nil => exact Gains.refl r
  | cons e es ih =>
      have hhere := gains_recordUnder (h e List.mem_cons_self) r feature
      exact hhere.trans (ih (fun e he => h e (List.mem_cons_of_mem _ he)) _)

/-- The entry of a feature's kind, if the feature is supported. -/
def kindEntries (gate : FeatureGate) (f : Feature) : List (String × FeatureKind) :=
  if gate.isSupported f.name then [(f.name, f.kind)] else []

theorem gains_beginFeature (r : Registry) (f : Feature) :
    Gains [] [(f.name, f.kind)] r (r.beginFeature f.name f.kind) :=
  ⟨rfl, rfl, rfl, rfl⟩

/-- Of a supported feature everything is recorded. -/
theorem recorded_of_isSupported {f : Feature} (h : gate.isSupported f.name = true) :
    f.recorded gate = f.orderedElements.map fun e => ⟨e, some f.name⟩ := by
  rw [Feature.recorded, h]
  simp

/-- A feature adds what is recorded of it, and its kind if it is supported. -/
theorem gains_through (r : Registry) (f : Feature) :
    Gains (f.recorded gate) (kindEntries gate f) r (r.through gate f) := by
  cases h : gate.isSupported f.name with
  | true =>
      have hbegin := gains_beginFeature r f
      have hinside := gains_recordAll (r := r.beginFeature f.name f.kind) rfl f.orderedElements
      rw [through, if_pos h, kindEntries, if_pos h, recorded_of_isSupported h]
      have hgains := hbegin.trans hinside
      exact ⟨hgains.records, hgains.commandFeatures, hgains.featureKinds, hgains.aliases⟩
  | false =>
      have hrecorded : f.recorded gate =
          (f.orderedElements.filter gate.keeps).map fun e => ⟨e, some f.name⟩ := by
        rw [Feature.recorded, h]
        simp
      rw [through_unsupported h, kindEntries, if_neg (by simp [h]), hrecorded]
      exact gains_foldl_recordUnder (fun e he => (List.mem_filter.mp he).2) r f.name

theorem gains_foldl_through (fs : List Feature) (r : Registry) :
    Gains (fs.flatMap (·.recorded gate)) (fs.flatMap (kindEntries gate)) r
      (fs.foldl (through gate) r) := by
  induction fs generalizing r with
  | nil => exact Gains.refl r
  | cons f fs ih => exact (gains_through r f).trans (ih (r.through gate f))

/-! ## Looking up -/

section LookUp

variable {rs : List Record} {kinds : List (String × FeatureKind)}

theorem Gains.names (h : Gains rs kinds {} r) :
    r.names = (rs.map (·.definition.name)).eraseDups := by
  have hnames := Ledger.names_insertAll (rs.map Record.entry)
  rw [List.map_map] at hnames
  rw [Registry.names, h.records]
  exact hnames

theorem Gains.find? (h : Gains rs kinds {} r) (name : String) :
    r.find? name = Record.last? rs name := by
  have hlast := Ledger.find?_insertAll (rs.map Record.entry) name
  rw [List.filter_map, List.getLast?_map, Option.map_map] at hlast
  rw [Registry.find?, h.records]
  exact hlast.trans (congrFun Option.map_id _)

/-- The command entered last under a name is the last one recorded. -/
theorem getLast?_commandEntries (hfeature : ∀ r ∈ rs, ∃ feature, r.feature = some feature)
    (name : String) :
    ((rs.filterMap Record.commandEntry?).filter (·.1 = name)).getLast?.map (·.2) =
      (Record.lastCommand? rs name).bind (·.feature) := by
  induction rs using List.reverseRecOn with
  | nil => rfl
  | append_singleton rs r ih =>
      have hrest := ih fun r hr => hfeature r (List.mem_append_left _ hr)
      obtain ⟨feature, hr⟩ := hfeature r (List.mem_append_right _ List.mem_cons_self)
      rw [Record.lastCommand?] at hrest ⊢
      rw [List.filter_append, List.filterMap_append, List.filter_append]
      by_cases hcommand : r.definition.category = .command
      · have hentry : r.commandEntry? = some (r.definition.name, feature) := by
          rw [Record.commandEntry?_eq, if_pos hcommand, hr]
          rfl
        rw [List.filterMap_cons_some hentry]
        by_cases hname : r.definition.name = name
        · simp [hcommand, hname, hr]
        · simpa [hname] using hrest
      · have hentry : r.commandEntry? = none := by
          rw [Record.commandEntry?_eq, if_neg hcommand]
        rw [List.filterMap_cons_none hentry]
        simpa [hcommand] using hrest

theorem Gains.commandFeature? (h : Gains rs kinds {} r)
    (hfeature : ∀ r ∈ rs, ∃ feature, r.feature = some feature) (name : String) :
    r.commandFeature? name = (Record.lastCommand? rs name).bind (·.feature) := by
  have hlast := Ledger.find?_insertAll (rs.filterMap Record.commandEntry?) name
  rw [Registry.commandFeature?, h.commandFeatures]
  exact hlast.trans (getLast?_commandEntries hfeature name)

theorem Gains.featureKind? (h : Gains rs kinds {} r) (hdistinct : (kinds.map (·.1)).Nodup)
    (name : String) (kind : FeatureKind) :
    r.featureKind? name = some kind ↔ (name, kind) ∈ kinds := by
  rw [Registry.featureKind?, h.featureKinds]
  exact Ledger.find?_insertAll_eq_some hdistinct

/-- A name that is found to be a struct was recorded as a struct or as an alias. -/
theorem Gains.exists_of_isStruct (h : Gains rs kinds {} r) {name : String}
    (hs : r.isStruct name = true) :
    ∃ record ∈ rs, record.definition.name = name ∧
      (record.definition.category = .struct ∨ record.definition.aliasOf.isSome = true) := by
  cases hlink : r.aliases.find? name with
  | some target =>
      rw [h.aliases] at hlink
      obtain ⟨entry, hentry, -⟩ := Option.map_eq_some_iff.mp
        ((Ledger.find?_insertAll _ name).symm.trans hlink)
      obtain ⟨hmem, hname⟩ := List.mem_filter.mp (List.mem_of_getLast? hentry)
      obtain ⟨record, hrecord, halias⟩ := List.mem_filterMap.mp hmem
      obtain ⟨target', htarget, rfl⟩ := Option.map_eq_some_iff.mp halias
      exact ⟨record, hrecord, by simpa using hname, .inr (by rw [htarget]; rfl)⟩
  | none =>
      -- Without a link the name stands for its own definition.
      rw [isStruct, struct?, resolved?, resolveAlias_of_unlinked hlink, definition?, h.find?] at hs
      cases hlast : Record.last? rs name with
      | none =>
          rw [hlast] at hs
          cases hs
      | some record =>
          rw [hlast] at hs
          obtain ⟨hmem, hname⟩ := List.mem_filter.mp (List.mem_of_getLast? hlast)
          refine ⟨record, hmem, by simpa using hname, .inl ?_⟩
          obtain ⟨definition, feature⟩ := record
          cases definition with
          | struct d => rfl
          | type d => cases hs
          | group d => cases hs
          | enum d => cases hs
          | command d => cases hs

end LookUp

/-! ## At a cue -/

section Cues

theorem exists_gains_of_mem_elementCues (h : r.currentFeature? = some feature) {es : List Element}
    {c : Cue} (hc : c ∈ elementCues r es) :
    ∃ rs, rs <+: es.map (⟨·, some feature⟩) ∧ Gains rs [] r c.registry := by
  induction es generalizing r with
  | nil => cases hc
  | cons e es ih =>
      have hhere := gains_record h e
      rw [elementCues, List.mem_cons] at hc
      rcases hc with rfl | hc
      · exact ⟨_, ⟨_, rfl⟩, hhere⟩
      · obtain ⟨rs, hrs, hgains⟩ := ih ((currentFeature?_record e).trans h) hc
        exact ⟨_, List.prefix_cons_inj _ |>.mpr hrs, hhere.trans hgains⟩

theorem exists_gains_of_mem_cues {f : Feature} (h : gate.isSupported f.name = true) {c : Cue}
    (hc : c ∈ f.cues r) : ∃ rs kinds, rs <+: f.recorded gate ∧ Gains rs kinds r c.registry := by
  have hbegin := gains_beginFeature r f
  rw [recorded_of_isSupported h]
  rw [Feature.cues, List.mem_cons, List.mem_append, List.mem_append, List.mem_singleton] at hc
  rcases hc with rfl | hrequire | helement | rfl
  · exact ⟨[], _, List.nil_prefix, hbegin⟩
  · obtain ⟨command, -, rfl⟩ := List.mem_map.mp hrequire
    exact ⟨[], _, List.nil_prefix, hbegin⟩
  · obtain ⟨rs, hrs, hgains⟩ := exists_gains_of_mem_elementCues rfl helement
    exact ⟨rs, _, hrs, hbegin.trans hgains⟩
  · exact ⟨_, _, List.prefix_rfl, hbegin.trans (gains_recordAll rfl f.orderedElements)⟩

theorem exists_gains_of_mem_featurePassages {fs : List Feature} {q : Passage} {c : Cue}
    (hq : q ∈ featurePassages gate r fs) (hc : c ∈ q.cues) :
    ∃ rs kinds, rs <+: fs.flatMap (·.recorded gate) ∧ Gains rs kinds r c.registry := by
  induction fs generalizing r with
  | nil => cases hq
  | cons f fs ih =>
      have hlater : q ∈ featurePassages gate (r.through gate f) fs →
          ∃ rs kinds, rs <+: (f :: fs).flatMap (·.recorded gate) ∧ Gains rs kinds r c.registry := by
        intro hq
        obtain ⟨rs, kinds, hrs, hgains⟩ := ih hq
        refine ⟨_, _, ?_, (gains_through r f).trans hgains⟩
        rw [List.flatMap_cons]
        exact (List.prefix_append_right_inj _).mpr hrs
      rw [featurePassages] at hq
      by_cases hs : gate.isSupported f.name = true
      · rw [if_pos hs, List.mem_cons] at hq
        rcases hq with rfl | hq
        · obtain ⟨rs, kinds, hrs, hgains⟩ := exists_gains_of_mem_cues hs hc
          rw [List.flatMap_cons]
          exact ⟨rs, kinds, hrs.trans (List.prefix_append _ _), hgains⟩
        · exact hlater hq
      · rw [if_neg hs] at hq
        exact hlater hq

end Cues

/-! ## The registry of a schema -/

variable {s : Schema}

/-- A run adds what is recorded of its schema to an empty registry. -/
theorem gains_finalRegistry :
    Gains (s.recorded gate) (s.features.flatMap (kindEntries gate)) {} (s.finalRegistry gate) := by
  have hgains : Gains _ _ {} (s.features.foldl (through gate) {}) :=
    gains_foldl_through s.features {}
  exact ⟨hgains.records, hgains.commandFeatures, hgains.featureKinds, hgains.aliases⟩

/-- By every cue of a run, the beginning of what is recorded has been added. -/
theorem exists_gains_of_mem_script {q : Passage} {c : Cue} (hq : q ∈ s.script gate)
    (hc : c ∈ q.cues) : ∃ rs kinds, rs <+: s.recorded gate ∧ Gains rs kinds {} c.registry := by
  rw [Schema.script, List.mem_cons, List.mem_append, List.mem_singleton] at hq
  rcases hq with rfl | hfeature | rfl
  · rw [List.mem_singleton.mp hc]
    exact ⟨[], [], List.nil_prefix, Gains.refl {}⟩
  · exact exists_gains_of_mem_featurePassages hfeature hc
  · rw [List.mem_singleton.mp hc]
    exact ⟨_, _, List.prefix_rfl, gains_finalRegistry⟩

theorem exists_feature_of_mem_recorded {record : Record} (h : record ∈ s.recorded gate) :
    ∃ feature, record.feature = some feature := by
  obtain ⟨f, -, hrecord⟩ := List.mem_flatMap.mp h
  obtain ⟨e, -, rfl⟩ := List.mem_map.mp hrecord
  exact ⟨f.name, rfl⟩

theorem mem_flatMap_kindEntries {fs : List Feature} {name : String} {kind : FeatureKind} :
    (name, kind) ∈ fs.flatMap (kindEntries gate) ↔
      ∃ f ∈ fs, gate.isSupported f.name = true ∧ f.name = name ∧ f.kind = kind := by
  have hone : ∀ f, (name, kind) ∈ kindEntries gate f ↔
      gate.isSupported f.name = true ∧ f.name = name ∧ f.kind = kind := by
    intro f
    rw [kindEntries]
    by_cases h : gate.isSupported f.name = true
    · simp only [h, if_true, List.mem_singleton, Prod.mk.injEq, true_and]
      exact and_congr eq_comm eq_comm
    · simp [h]
  simp only [List.mem_flatMap, hone]

/-- Kinds are entered in the order of the features. -/
theorem names_kindEntries (fs : List Feature) :
    ((fs.flatMap (kindEntries gate)).map (·.1)).Sublist (fs.map (·.name)) := by
  induction fs with
  | nil => exact List.Sublist.refl _
  | cons f fs ih =>
      rw [List.flatMap_cons, List.map_append, List.map_cons, kindEntries]
      split
      · exact ih.cons_cons _
      · exact ih.cons _

/-- The registry answers every look-up by what is recorded of a schema. -/
structure Holds (gate : FeatureGate) (s : Schema) (r : Registry) : Prop where
  /-- The names, each where it was recorded first. -/
  names : r.names = ((s.recorded gate).map (·.definition.name)).eraseDups
  size : r.size = ((s.recorded gate).map (·.definition.name)).eraseDups.length
  contains : ∀ name,
    r.contains name = true ↔ ∃ record ∈ s.recorded gate, record.definition.name = name
  /-- The last definition of a name. -/
  definition : ∀ name,
    r.definition? name = (Record.last? (s.recorded gate) name).map (·.definition)
  /-- The feature of that definition. -/
  featureOf : ∀ name, r.featureOf? name = (Record.last? (s.recorded gate) name).bind (·.feature)
  /-- The feature of the last command with a name. -/
  commandFeature : ∀ name,
    r.commandFeature? name = (Record.lastCommand? (s.recorded gate) name).bind (·.feature)
  /-- The kinds of supported features, and of no others. -/
  featureKind : ∀ name kind, r.featureKind? name = some kind ↔
    ∃ f ∈ s.features, gate.isSupported f.name = true ∧ f.name = name ∧ f.kind = kind
  finished : r.finished = true
  current : r.currentFeature? = none

/-- The registry that a valid schema ends with holds what is recorded of it. -/
theorem holds_finalRegistry (hs : s.validate = .ok ()) : (s.finalRegistry gate).Holds gate s where
  names := gains_finalRegistry.names
  size := by
    rw [← gains_finalRegistry.names, Registry.names, Ledger.names, List.length_map]
    rfl
  contains name := by
    have hlisted : (s.finalRegistry gate).contains name = true ↔
        name ∈ (s.finalRegistry gate).names :=
      Ledger.find?_isSome_iff _ name
    rw [hlisted, gains_finalRegistry.names, List.mem_eraseDups, List.mem_map]
  definition name := by rw [definition?, gains_finalRegistry.find?]
  featureOf name := by rw [featureOf?, gains_finalRegistry.find?]
  commandFeature := gains_finalRegistry.commandFeature? fun _ => exists_feature_of_mem_recorded
  featureKind name kind := by
    have hdistinct : ((s.features.flatMap (kindEntries gate)).map (·.1)).Nodup :=
      (names_kindEntries s.features).nodup (s.validate_eq_ok_iff.mp hs).1
    rw [gains_finalRegistry.featureKind? hdistinct, mem_flatMap_kindEntries]
  finished := rfl
  current := congrArg (Option.map Prod.fst) (current_foldl_through s.features rfl)

end Registry

/-! ## After a run -/

namespace Generator

variable {ε : Type} [Emitter ε] {o : GeneratorOptions} {gate : FeatureGate}
  {specs : List ModuleSpec} {bindings : List (Binding ε)}

/-- A run of an assembled generator comes to its end on every disk, and its registry then answers
every look-up by what is recorded of the schema. -/
theorem registry_after_run {g₀ : Generator ε} (hg : assemble o gate specs bindings = .ok g₀)
    {s : Schema} (hs : s.validate = .ok ()) (d : Disk) :
    ∃ report g d', (g₀.run s : OnDisk _).run d = ((.ok report, g), d') ∧
      g.registry.Holds gate s := by
  obtain ⟨hsound, rfl⟩ := assemble_eq_ok_iff.mp hg
  obtain ⟨bound, hrun⟩ := run_assembled hsound hs
  obtain ⟨report, d', hdeliver⟩ := exists_deliver (concluded o gate specs bindings s bound) d
  exact ⟨report, _, d', hrun hdeliver, Registry.holds_finalRegistry hs⟩

/-- The registry of the small schema after the small table has been generated. -/
theorem registry_after_run_sample :
    ∃ report g d',
      ((assembled { outputDir := "out" } sampleGate sampleSpecs sampleBindings).run sampleSchema :
        OnDisk _).run ⟨[], []⟩ = ((.ok report, g), d') ∧
      g.registry.Holds sampleGate sampleSchema :=
  registry_after_run (assemble_eq_ok_iff.mpr ⟨sample_sound, rfl⟩) rfl ⟨[], []⟩

end Generator

end VulkanWire
