import VulkanWire.Proofs.Generator.Text
import VulkanWire.Proofs.Storage.Naming

/-!
# The files of a run

Everything a run delivers is a header or an implementation of a declared
module or one of the two build fragments. The name of a file tells which of
these it is, and of a module's file also the base name. So two deliveries can
land on the same file only if modules share a base name.

## Main definitions

* `FileSource` — what a delivered file holds, with its name and its artifact.
* `Generator.artifacts` — everything that a run delivers, in order.
* `Consistent` — tables whose modules may share files.

## Main results

* `plan_concluded` — a run delivers its artifacts.
* `exists_source_of_mem_plan` — every planned artifact has a source.
* `Consistent.content_eq_of_stat` — artifacts on the same file share their
  content, if modules with the same base name do.
-/

namespace VulkanWire

/-- Whether the files of a module are delivered. -/
def GeneratorOptions.keeps (o : GeneratorOptions) (spec : ModuleSpec) : Bool :=
  o.suppressExcept.all (· = spec.name)

/-- What a delivered file holds. -/
inductive FileSource where
  | header (spec : ModuleSpec)
  | implementation (spec : ModuleSpec)
  | guestFragment
  | hostFragment

namespace FileSource

/-- The name of the file. -/
def fileName : FileSource → String
  | header spec => spec.basename ++ ".h"
  | implementation spec => spec.basename ++ ".cpp"
  | guestFragment => "sources.mk"
  | hostFragment => "CMakeLists.txt"

/-- The declaration of the module, if the file is a module's. -/
def spec? : FileSource → Option ModuleSpec
  | header spec => some spec
  | implementation spec => some spec
  | _ => none

/-- The last letter of the name, which differs from kind to kind. -/
def letter : FileSource → Char
  | header _ => 'h'
  | implementation _ => 'p'
  | guestFragment => 'k'
  | hostFragment => 't'

theorem getLast?_fileName (src : FileSource) :
    src.fileName.toList.getLast? = some src.letter := by
  cases src with
  | header spec => simp [fileName, letter, String.toList_append]
  | implementation spec => simp [fileName, letter, String.toList_append]
  | guestFragment => decide
  | hostFragment => decide

/-- Files of one name are of one kind. -/
theorem letter_eq_of_fileName_eq {src src' : FileSource} (h : src.fileName = src'.fileName) :
    src.letter = src'.letter := by
  have hlast := getLast?_fileName src
  rw [h, getLast?_fileName src'] at hlast
  injection hlast with hlast
  exact hlast.symm

/-- Sources of one kind that belong to modules with the same base name, or to none. -/
inductive Alike : FileSource → FileSource → Prop where
  | headers {spec other : ModuleSpec} (h : spec.basename = other.basename) :
      Alike (header spec) (header other)
  | implementations {spec other : ModuleSpec} (h : spec.basename = other.basename) :
      Alike (implementation spec) (implementation other)
  | guestFragments : Alike guestFragment guestFragment
  | hostFragments : Alike hostFragment hostFragment

/-- A name tells the kind of a file and, of a module's file, the base name. -/
theorem alike_of_fileName_eq {src src' : FileSource} (h : src.fileName = src'.fileName) :
    Alike src src' := by
  have hletter := letter_eq_of_fileName_eq h
  -- Names of different kinds differ in their last letter, so four of the sixteen cases remain.
  cases src with
  | header spec =>
      cases src' with
      | header other => exact .headers ((String.append_left_inj _).mp h)
      | implementation other => exact absurd hletter (by simp [letter])
      | guestFragment => exact absurd hletter (by simp [letter])
      | hostFragment => exact absurd hletter (by simp [letter])
  | implementation spec =>
      cases src' with
      | header other => exact absurd hletter (by simp [letter])
      | implementation other => exact .implementations ((String.append_left_inj _).mp h)
      | guestFragment => exact absurd hletter (by simp [letter])
      | hostFragment => exact absurd hletter (by simp [letter])
  | guestFragment =>
      cases src' with
      | header other => exact absurd hletter (by simp [letter])
      | implementation other => exact absurd hletter (by simp [letter])
      | guestFragment => exact .guestFragments
      | hostFragment => exact absurd hletter (by simp [letter])
  | hostFragment =>
      cases src' with
      | header other => exact absurd hletter (by simp [letter])
      | implementation other => exact absurd hletter (by simp [letter])
      | guestFragment => exact absurd hletter (by simp [letter])
      | hostFragment => exact .hostFragments

/-- The artifact of a source, given what its module has become and the generator that delivers. -/
def artifact {ε : Type} (g : Generator ε) (performed : ModuleSpec → OutputModule) :
    FileSource → Artifact
  | header spec => ⟨.header, (performed spec).headerPath, (performed spec).headerText⟩
  | implementation spec =>
    ⟨.implementation, (performed spec).implPath, (performed spec).implText⟩
  | guestFragment =>
    ⟨.buildFragment, g.options.guestFragmentPath,
      g.buildFragments.renderGuest g.options.guestDir g.options.fragments⟩
  | hostFragment =>
    ⟨.buildFragment, g.options.hostFragmentPath,
      g.buildFragments.renderHost g.options.outputDir g.options.fragments⟩

/-- The path of a file ends in its name. -/
theorem lastName?_artifact {ε : Type} {g : Generator ε} {performed : ModuleSpec → OutputModule}
    (hspec : ∀ spec, (performed spec).spec = spec) {src : FileSource}
    (hname : Path.IsName src.fileName) :
    (src.artifact g performed).path.lastName? = some src.fileName := by
  cases src with
  | header spec =>
      have hpath : (performed spec).headerPath =
          (performed spec).directory.join ⟨spec.basename ++ ".h"⟩ := by
        rw [OutputModule.headerPath, hspec]
      rw [artifact, hpath]
      exact Path.lastName?_join _ hname
  | implementation spec =>
      have hpath : (performed spec).implPath =
          (performed spec).directory.join ⟨spec.basename ++ ".cpp"⟩ := by
        rw [OutputModule.implPath, hspec]
      rw [artifact, hpath]
      exact Path.lastName?_join _ hname
  | guestFragment => exact Path.lastName?_join _ hname
  | hostFragment => exact Path.lastName?_join _ hname

end FileSource

namespace Generator

variable {ε : Type} [Emitter ε] {o : GeneratorOptions} {gate : FeatureGate}
  {specs : List ModuleSpec} {bindings : List (Binding ε)} {s : Schema}
  {bound : List (BoundEmitter ε)}

/-! ## The artifacts of a run -/

/-- The artifacts of a run: the files of every module that is kept, in the order of the table, and
then the build fragments, unless a module is suppressed. -/
def artifacts (o : GeneratorOptions) (gate : FeatureGate) (specs : List ModuleSpec)
    (bindings : List (Binding ε)) (s : Schema) : List Artifact :=
  ((specs.filter o.keeps).flatMap fun spec =>
      ((declare o spec).performed gate s bindings).artifacts) ++
    if o.isSuppressing then []
    else fragmentArtifacts o (.ofEntries (specs.filterMap fun spec =>
      ((declare o spec).performed gate s bindings).buildSource?))

theorem modules_concluded (bound : List (BoundEmitter ε)) :
    (concluded o gate specs bindings s bound).modules =
      specs.map fun spec => OutputModule.performed gate s bindings
        { declare o spec with suppressed := !o.keeps spec } := by
  rw [concluded]
  unfold suppress GeneratorOptions.keeps
  cases o.suppressExcept with
  | none =>
      rw [List.map_map]
      rfl
  | some keep =>
      rw [List.map_map, List.map_map]
      refine List.map_congr_left fun spec _ => ?_
      simp [declare, OutputModule.ofSpec, OutputModule.name, eq_comm]

/-- A module that is kept is due with all of its files, and any other with none. -/
theorem due_performed (spec : ModuleSpec) :
    (OutputModule.performed gate s bindings
        { declare o spec with suppressed := !o.keeps spec }).due =
      if o.keeps spec then ((declare o spec).performed gate s bindings).artifacts else [] := by
  unfold OutputModule.due
  rw [OutputModule.finalized_performed, OutputModule.suppressed_performed]
  cases o.keeps spec <;> rfl

theorem flatMap_due_concluded (bound : List (BoundEmitter ε)) :
    (concluded o gate specs bindings s bound).modules.flatMap (·.due) =
      (specs.filter o.keeps).flatMap fun spec =>
        ((declare o spec).performed gate s bindings).artifacts := by
  rw [modules_concluded, List.flatMap_map]
  simp only [due_performed]
  induction specs with
  | nil => rfl
  | cons spec specs ih =>
      rw [List.flatMap_cons, List.filter_cons, ih]
      cases o.keeps spec <;> rfl

/-- A run delivers its artifacts, in order. -/
theorem plan_concluded (bound : List (BoundEmitter ε)) :
    (concluded o gate specs bindings s bound).plan = artifacts o gate specs bindings s := by
  rw [plan, flatMap_due_concluded, artifacts]
  congr 1
  show (if o.isSuppressing then [] else _) = _
  by_cases h : o.isSuppressing = true
  · rw [if_pos h, if_pos h]
  · have hall : ∀ spec, o.keeps spec = true := by
      intro spec
      have hnone : o.suppressExcept = none := by simpa [GeneratorOptions.isSuppressing] using h
      rw [GeneratorOptions.keeps, hnone]
      rfl
    rw [if_neg h, if_neg h, buildFragments, modules_concluded, List.filterMap_map]
    simp only [hall]
    rfl

/-- The artifacts are the headers and the implementations of the modules that are kept, and both
build fragments, unless a module is suppressed. -/
theorem length_artifacts :
    (artifacts o gate specs bindings s).length =
      (specs.filter o.keeps).countP (fun spec => !spec.implOnly) +
        (specs.filter o.keeps).countP (fun spec => !spec.headerOnly) +
        if o.isSuppressing then 0 else 2 := by
  have hmodule : ∀ spec, ((declare o spec).performed gate s bindings).artifacts.length =
      (if !spec.implOnly then 1 else 0) + if !spec.headerOnly then 1 else 0 := by
    intro spec
    rw [OutputModule.artifacts, OutputModule.spec_performed]
    show List.length ((if spec.implOnly then _ else _) ++ if spec.headerOnly then _ else _) = _
    cases spec.implOnly <;> cases spec.headerOnly <;> rfl
  have hmodules : ∀ kept : List ModuleSpec,
      (kept.flatMap fun spec => ((declare o spec).performed gate s bindings).artifacts).length =
        kept.countP (fun spec => !spec.implOnly) + kept.countP fun spec => !spec.headerOnly := by
    intro kept
    induction kept with
    | nil => rfl
    | cons spec kept ih =>
        rw [List.flatMap_cons, List.length_append, hmodule, ih, List.countP_cons, List.countP_cons]
        omega
  rw [artifacts, List.length_append, hmodules]
  cases o.isSuppressing <;> rfl

/-- Everything planned is a file of a declared module or a build fragment. -/
theorem exists_source_of_mem_plan {a : Artifact}
    (ha : a ∈ (concluded o gate specs bindings s bound).plan) :
    ∃ src : FileSource, (∀ spec, src.spec? = some spec → spec ∈ specs) ∧
      a = src.artifact (concluded o gate specs bindings s bound)
        fun spec => (declare o spec).performed gate s bindings := by
  rw [plan, List.mem_append, flatMap_due_concluded] at ha
  rcases ha with hmodule | hfragment
  · obtain ⟨spec, hkept, ha⟩ := List.mem_flatMap.mp hmodule
    have hone : ∀ other, some spec = some other → other ∈ specs := by
      intro other hother
      injection hother with hother
      exact hother ▸ (List.mem_filter.mp hkept).1
    rw [OutputModule.artifacts, List.mem_append] at ha
    rcases ha with hheader | himpl
    · split at hheader
      · cases hheader
      · exact ⟨.header spec, hone, List.mem_singleton.mp hheader⟩
    · split at himpl
      · cases himpl
      · exact ⟨.implementation spec, hone, List.mem_singleton.mp himpl⟩
  · unfold plannedFragments at hfragment
    split at hfragment
    · cases hfragment
    · rw [List.mem_cons, List.mem_singleton] at hfragment
      rcases hfragment with rfl | rfl
      · exact ⟨.guestFragment, by simp [FileSource.spec?], rfl⟩
      · exact ⟨.hostFragment, by simp [FileSource.spec?], rfl⟩

/-- A table whose base names make file names and, where modules share one, also file contents. -/
structure Consistent (o : GeneratorOptions) (gate : FeatureGate) (specs : List ModuleSpec)
    (bindings : List (Binding ε)) (s : Schema) : Prop where
  names : ∀ spec ∈ specs,
    Path.IsName (spec.basename ++ ".h") ∧ Path.IsName (spec.basename ++ ".cpp")
  contents : ∀ spec ∈ specs, ∀ other ∈ specs, spec.basename = other.basename →
    ((declare o spec).performed gate s bindings).headerText =
        ((declare o other).performed gate s bindings).headerText ∧
      ((declare o spec).performed gate s bindings).implText =
        ((declare o other).performed gate s bindings).implText

theorem Consistent.isName (h : Consistent o gate specs bindings s) {src : FileSource}
    (hsrc : ∀ spec, src.spec? = some spec → spec ∈ specs) : Path.IsName src.fileName := by
  cases src with
  | header spec => exact (h.names spec (hsrc spec rfl)).1
  | implementation spec => exact (h.names spec (hsrc spec rfl)).2
  | guestFragment => decide
  | hostFragment => decide

/-- Artifacts whose paths lead to the same place of a disk have the same content. -/
theorem Consistent.content_eq_of_stat (h : Consistent o gate specs bindings s) {a b : Artifact}
    (ha : a ∈ (concluded o gate specs bindings s bound).plan)
    (hb : b ∈ (concluded o gate specs bindings s bound).plan) {d : Disk} {place : Place}
    (hpa : d.stat a.path = .ok place) (hpb : d.stat b.path = .ok place) :
    a.content = b.content := by
  obtain ⟨src, hsrc, rfl⟩ := exists_source_of_mem_plan ha
  obtain ⟨src', hsrc', rfl⟩ := exists_source_of_mem_plan hb
  have hspec : ∀ spec, ((declare o spec).performed gate s bindings).spec = spec :=
    fun spec => OutputModule.spec_performed gate s bindings (declare o spec)
  have hname : src.fileName = src'.fileName :=
    Disk.lastName?_eq_of_stat hpa hpb
      (FileSource.lastName?_artifact hspec (h.isName hsrc))
      (FileSource.lastName?_artifact hspec (h.isName hsrc')) (h.isName hsrc) (h.isName hsrc')
  cases FileSource.alike_of_fileName_eq hname with
  | headers hbase => exact (h.contents _ (hsrc _ rfl) _ (hsrc' _ rfl) hbase).1
  | implementations hbase => exact (h.contents _ (hsrc _ rfl) _ (hsrc' _ rfl) hbase).2
  | guestFragments => rfl
  | hostFragments => rfl

end Generator

end VulkanWire
