import VulkanWire.Proofs.Command.ExitCodes

/-!
# What a comparison finds

A comparison looks at all artifacts that a generation would deliver. What it
reports of them is exact, but it does not report every difference: it breaks off
at a file that is no text and at one that stands where a directory should be.

## Main definitions

* `Config.artifacts` — the artifacts that a configuration asks for.
* `Comparison.IsExact` — what a report says of the artifacts.

## Main results

* `compareAll_run` — a comparison up to its first obstacle.
* `comparison_exact` — what a report says.
* `comparison_reports_iff` — when a comparison gets to its report.
-/

namespace VulkanWire

/-! ## Comparisons of a configuration -/

/-- The artifacts that a configuration asks for, in the order of their delivery. -/
def Config.artifacts (c : Config) (s : Schema) (commandLine : String) : List Artifact :=
  Generator.artifacts (c.generatorOptions commandLine) (Gfxstream.gate c.generation.extraFeatures)
    (Gfxstream.modules c.layoutSettings) Gfxstream.bindings s

variable {c : Config} {s : Schema} {commandLine : String} {d : Disk}

/-- A comparison reads the files of all artifacts that a generation would deliver. -/
theorem compareAll_run (hsound : c.IsSound commandLine) (hs : s.validate = .ok ()) (d : Disk) :
    (compareAll c s commandLine : OnDisk _).run d =
      ((d.comparison (c.artifacts s commandLine)).mapError .storage, d) := by
  obtain ⟨bound, hdry⟩ := generateAll_dry hsound hs
  have hshown : ((c.dry.concluded s commandLine bound).intended true).deliveries =
      (c.artifacts s commandLine).map Artifact.preview := by
    rw [Generator.deliveries_intended, Generator.plan_concluded]
    rfl
  have hcompare := compareDeliveries_preview (c.artifacts s commandLine) d
  rw [← hshown] at hcompare
  rw [compareAll, OnDisk.run_bind (hdry d)]
  refine (OnDisk.run_bind hcompare).trans ?_
  cases d.comparison (c.artifacts s commandLine) <;> rfl

/-- Only a generation that gets to its report is compared with anything. -/
theorem sound_of_compareAll {found : Comparison} {d' : Disk}
    (h : (compareAll c s commandLine : OnDisk _).run d = (.ok found, d')) :
    c.IsSound commandLine ∧ s.validate = .ok () := by
  have hlooks : OnDisk.Looks (generateAll c.dry s commandLine : OnDisk _) fun _ => True :=
    looks_generateAll (c := c.dry) rfl
  obtain ⟨result, hgenerate, -⟩ := hlooks d
  rw [compareAll, OnDisk.run_bind hgenerate] at h
  cases result with
  | error fault => cases h
  | ok report => exact sound_of_generateAll (c := c.dry) hgenerate

/-- A comparison ends with the first obstacle there is. -/
theorem compareAll_run_of_obstacle (ha : c.Accepted) (hs : s.validate = .ok ()) {cause : FileFault}
    (hfirst : (c.artifacts s commandLine).findSome? (fun a => d.obstacle? a.path) = some cause) :
    (compareAll c s commandLine : OnDisk _).run d = (.error (.storage cause), d) := by
  rw [compareAll_run (isSound_of_accepted ha) hs, Disk.comparison, hfirst]
  rfl

/-- Without any obstacle, it gets to its report. -/
theorem compareAll_run_of_clear (ha : c.Accepted) (hs : s.validate = .ok ())
    (hclear : (c.artifacts s commandLine).findSome? (fun a => d.obstacle? a.path) = none) :
    (compareAll c s commandLine : OnDisk _).run d =
      (.ok (d.compared (c.artifacts s commandLine)), d) := by
  rw [compareAll_run (isSound_of_accepted ha) hs, Disk.comparison, hclear]
  rfl

/-- A configuration that generates a single header into a directory. -/
def nestedConfig : Config where
  output := { dir := "/out" }
  generation := { suppress := some "vulkan_gfxstream_structure_type_host" }

theorem accepted_nestedConfig : nestedConfig.Accepted := by
  intro module hmodule
  injection hmodule with hmodule
  subst hmodule
  decide

/-- The path of that header. -/
def nestedHeader : Path := "/out/vulkan_gfxstream_structure_type.h"

/-! ### What is reported -/

/-- What a report says of the artifacts of a configuration and the files on a disk. -/
structure Comparison.IsExact (found : Comparison) (c : Config) (s : Schema) (commandLine : String)
    (d : Disk) : Prop where
  /-- The headers and the implementations of all modules that are kept, and both build fragments
  unless a module is suppressed. -/
  checked : found.checked =
    ((Gfxstream.modules c.layoutSettings).filter (c.generatorOptions commandLine).keeps).countP
        (fun spec => !spec.implOnly) +
      ((Gfxstream.modules c.layoutSettings).filter (c.generatorOptions commandLine).keeps).countP
        (fun spec => !spec.headerOnly) +
      if (c.generatorOptions commandLine).isSuppressing then 0 else 2
  /-- The artifacts without a file. -/
  missing : found.missing =
    ((c.artifacts s commandLine).filter fun a => (d.bytesAt? a.path).isNone).map (·.path)
  /-- The artifacts with a file that holds something else. -/
  stale : found.stale =
    ((c.artifacts s commandLine).filter fun a => d.holdsOther a.path a.content).map (·.path)
  /-- Both are listed in the order of delivery. -/
  ordered : found.missing.Sublist ((c.artifacts s commandLine).map (·.path)) ∧
    found.stale.Sublist ((c.artifacts s commandLine).map (·.path))
  disjoint : ∀ p ∈ found.missing, p ∉ found.stale
  upToDate : found.isUpToDate = true ↔
    ∀ a ∈ c.artifacts s commandLine, d.bytesAt? a.path = some a.content.toUTF8
  /-- Every path leads nowhere or to a text. -/
  clear : ∀ a ∈ c.artifacts s commandLine, d.obstacle? a.path = none

/-- A report that sorts all artifacts is exact. -/
theorem isExact_compared
    (hclear : (c.artifacts s commandLine).findSome? (fun a => d.obstacle? a.path) = none) :
    (d.compared (c.artifacts s commandLine)).IsExact c s commandLine d where
  checked := Generator.length_artifacts
  missing := rfl
  stale := rfl
  ordered := ⟨d.compared_missing_sublist _, d.compared_stale_sublist _⟩
  disjoint := d.compared_disjoint _
  upToDate := d.compared_isUpToDate _
  clear := List.findSome?_eq_none_iff.mp hclear

/-- For every configuration, schema and command line: whatever a comparison reports on a disk is
exact, it leaves every disk as it is, and whether the configuration asks for files to be touched is
all the same to it. -/
theorem comparison_exact (c : Config) (s : Schema) (commandLine : String) :
    (∀ d found d', (compareAll c s commandLine : OnDisk _).run d = (.ok found, d') →
      found.IsExact c s commandLine d) ∧
    (∀ d, ((compareAll c s commandLine : OnDisk _).run d).2 = d) ∧
    ∀ dryRun, (compareAll { c with output := { c.output with dryRun } } s commandLine : OnDisk _) =
      compareAll c s commandLine := by
  refine ⟨?_, ?_, fun _ => rfl⟩
  · intro d found d' h
    obtain ⟨hsound, hs⟩ := sound_of_compareAll h
    rw [compareAll_run hsound hs, Disk.comparison] at h
    cases hclear : (c.artifacts s commandLine).findSome? fun a => d.obstacle? a.path with
    | some cause =>
        rw [hclear] at h
        cases h
    | none =>
        rw [hclear] at h
        injection h with hfound
        injection hfound with hfound
        rw [← hfound]
        exact isExact_compared hclear
  · intro d
    obtain ⟨result, hrun, -⟩ := looks_compareAll (c := c) (s := s) d
    rw [hrun]

/-- The header that is missing on an empty disk. -/
theorem comparison_exact_sample :
    ∃ found, (compareAll nestedConfig {} "generate" : OnDisk _).run ⟨[], []⟩ =
        (.ok found, ⟨[], []⟩) ∧
      found.IsExact nestedConfig {} "generate" ⟨[], []⟩ ∧ found.missing = [nestedHeader] := by
  have hrun : (compareAll nestedConfig {} "generate" : OnDisk _).run ⟨[], []⟩ = (.ok _, ⟨[], []⟩) :=
    compareAll_run_of_clear accepted_nestedConfig rfl (by decide +kernel)
  exact ⟨_, hrun, (comparison_exact nestedConfig {} "generate").1 _ _ _ hrun, by decide +kernel⟩

/-! ### What is not reported -/

/-- For every accepted configuration, valid schema, command line and disk: a comparison ends with
the first obstacle or sorts all artifacts. Where every path is absent or leads to a file, it gets to
its report exactly if no path leads through a file and every file is text; and then it calls missing
what is absent, and stale what holds other bytes. -/
theorem comparison_reports_iff (ha : c.Accepted) (hs : s.validate = .ok ()) (commandLine : String)
    (d : Disk) :
    (compareAll c s commandLine : OnDisk _).run d =
        ((d.comparison (c.artifacts s commandLine)).mapError .storage, d) ∧
      ((∀ a ∈ c.artifacts s commandLine, d.isAbsent a.path = true ∨ d.isFile a.path = true) →
        ((∃ found, (compareAll c s commandLine : OnDisk _).run d = (.ok found, d)) ↔
          ∀ a ∈ c.artifacts s commandLine, d.stat a.path ≠ .error .notDirectory ∧
            ∀ bytes, d.bytesAt? a.path = some bytes → bytes.IsValidUTF8) ∧
        ∀ found, (compareAll c s commandLine : OnDisk _).run d = (.ok found, d) →
          found.missing =
            ((c.artifacts s commandLine).filter fun a => d.isAbsent a.path).map (·.path) ∧
          found.stale =
            ((c.artifacts s commandLine).filter fun a => d.holdsOther a.path a.content).map
              (·.path)) := by
  have hrun : (compareAll c s commandLine : OnDisk _).run d = _ :=
    compareAll_run (isSound_of_accepted ha) hs d
  refine ⟨hrun, fun hplain => ?_⟩
  have hclear : (c.artifacts s commandLine).findSome? (fun a => d.obstacle? a.path) = none ↔
      ∀ a ∈ c.artifacts s commandLine, d.stat a.path ≠ .error .notDirectory ∧
        ∀ bytes, d.bytesAt? a.path = some bytes → bytes.IsValidUTF8 := by
    rw [List.findSome?_eq_none_iff]
    exact forall₂_congr fun a ha => Disk.obstacle?_eq_none_iff (hplain a ha)
  have habsent : (c.artifacts s commandLine).filter (fun a => (d.bytesAt? a.path).isNone) =
      (c.artifacts s commandLine).filter fun a => d.isAbsent a.path :=
    List.filter_congr fun a ha => Disk.isNone_bytesAt?_eq (hplain a ha)
  rw [hrun, Disk.comparison, ← hclear, ← habsent]
  cases (c.artifacts s commandLine).findSome? fun a => d.obstacle? a.path with
  | none =>
      refine ⟨iff_of_true ⟨_, rfl⟩ rfl, ?_⟩
      rintro found ⟨⟩
      exact ⟨rfl, rfl⟩
  | some cause =>
      refine ⟨iff_of_false ?_ (by simp), ?_⟩
      · rintro ⟨found, ⟨⟩⟩
      · rintro found ⟨⟩

/-- An empty header on disk. -/
def emptiedDisk : Disk := ⟨[(["out"], .directory),
  (["out", "vulkan_gfxstream_structure_type.h"], .file "".toUTF8)], []⟩

/-- An empty header is stale. -/
theorem comparison_reports_iff_sample :
    ∃ found, (compareAll nestedConfig {} "generate" : OnDisk _).run emptiedDisk =
        (.ok found, emptiedDisk) ∧
      found.missing = [] ∧ found.stale = [nestedHeader] := by
  have hpath : ∀ a ∈ nestedConfig.artifacts {} "generate", a.path = nestedHeader := by
    decide +kernel
  have hstat : emptiedDisk.stat nestedHeader =
      .ok ["out", "vulkan_gfxstream_structure_type.h"] := by
    rfl
  have hbytes : emptiedDisk.bytesAt? nestedHeader = some "".toUTF8 := by
    rfl
  have hplain : ∀ a ∈ nestedConfig.artifacts {} "generate",
      emptiedDisk.isAbsent a.path = true ∨ emptiedDisk.isFile a.path = true := by
    intro a ha
    rw [hpath a ha]
    exact .inr rfl
  obtain ⟨hreports, hlists⟩ :=
    (comparison_reports_iff accepted_nestedConfig (s := {}) rfl "generate" emptiedDisk).2 hplain
  have hclear : ∀ a ∈ nestedConfig.artifacts {} "generate",
      emptiedDisk.stat a.path ≠ .error .notDirectory ∧
        ∀ bytes, emptiedDisk.bytesAt? a.path = some bytes → bytes.IsValidUTF8 := by
    intro a ha
    rw [hpath a ha, hstat, hbytes]
    refine ⟨by simp, ?_⟩
    rintro bytes ⟨⟩
    exact "".isValidUTF8
  obtain ⟨found, hrun⟩ := hreports.mpr hclear
  obtain ⟨hmissing, hstale⟩ := hlists found hrun
  refine ⟨found, hrun, ?_, ?_⟩
  · rw [hmissing]
    decide +kernel
  · rw [hstale]
    decide +kernel

/-- A header on disk that is no text. -/
def garbledDisk : Disk := ⟨[(["out"], .directory),
  (["out", "vulkan_gfxstream_structure_type.h"], .file ⟨#[0xff]⟩)], []⟩

/-- A file where the directory of artifacts should be. -/
def blockedDisk : Disk := ⟨[(["out"], .file ⟨#[]⟩)], []⟩

/-- A header that differs in bytes that are no text is not reported as stale, and one that cannot be
there because of a file above it is not reported as missing: the comparison breaks off, and with it
the tool, with the exit code of a failure. -/
theorem garbled_header_unreported :
    nestedConfig.Accepted ∧
      (∀ a ∈ nestedConfig.artifacts {} "generate",
        garbledDisk.bytesAt? a.path = some ⟨#[0xff]⟩ ∧ blockedDisk.isAbsent a.path = true) ∧
      (compareAll nestedConfig {} "generate" : OnDisk _).run garbledDisk =
        (.error (.storage .notText), garbledDisk) ∧
      (compareAll nestedConfig {} "generate" : OnDisk _).run blockedDisk =
        (.error (.storage .notDirectory), blockedDisk) ∧
      (ToolFault.storage .notText).exitCode = 1 ∧ (ToolFault.storage .notDirectory).exitCode = 1 :=
  ⟨accepted_nestedConfig, by decide +kernel,
    compareAll_run_of_obstacle accepted_nestedConfig rfl (by decide +kernel),
    compareAll_run_of_obstacle accepted_nestedConfig rfl (by decide +kernel), rfl, rfl⟩

end VulkanWire
