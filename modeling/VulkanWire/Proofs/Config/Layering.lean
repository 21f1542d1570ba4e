import Mathlib.Tactic.SplitIfs
import VulkanWire.Proofs.Command.Session
import VulkanWire.Proofs.Tool.Acceptance

/-!
# What layers of settings come to

Where a setting of a resolved configuration comes from depends on the setting:
the command line goes before the environment and that before the file, but not
every setting can be given in every layer, features add up, and for the module
to keep the empty name means that nothing is suppressed. Here it is said for
each setting by itself, without going through the layers one by one, and so is
when a resolved configuration is refused and which options it leads to.

## Main definitions

* `LastValue` — the value that a variable is given last.
* `Config.Layered` — what the layers come to, setting by setting.
* `Config.Usable`, `Config.FirstProblem` — when a configuration is accepted, and
  what is reported of one that is not.

## Main results

* `Config.Layered.unique` — the layers settle every setting.
* `Config.layered_field_by_field` — what a resolved configuration is, when there is
  one, and the options that it leads to.
-/

namespace VulkanWire

/-! ## Variables -/

/-- The value that a variable is given last. -/
def LastValue (pairs : List (String × String)) (name value : String) : Prop :=
  ∃ before after, pairs = before ++ (name, value) :: after ∧ ∀ p ∈ after, p.1 ≠ name

theorem lookup_reverse_eq_some_iff {pairs : List (String × String)} {name value : String} :
    pairs.reverse.lookup name = some value ↔ LastValue pairs name value := by
  rw [List.lookup_eq_some_iff]
  constructor
  · rintro ⟨after, before, hpairs, hafter⟩
    refine ⟨before.reverse, after.reverse, ?_, ?_⟩
    · rw [List.reverse_eq_iff.mp hpairs]
      simp
    · intro p hp
      exact fun hsame => bne_iff_ne.mp (hafter p (List.mem_reverse.mp hp)) hsame.symm
  · rintro ⟨before, after, rfl, hafter⟩
    refine ⟨after.reverse, before.reverse, by simp, ?_⟩
    intro p hp
    exact bne_iff_ne.mpr (Ne.symm (hafter p (List.mem_reverse.mp hp)))

/-- A variable counts with the value it is given last, provided that is not empty. -/
theorem EnvOverrides.value?_eq_some_iff {pairs : List (String × String)} {name value : String} :
    EnvOverrides.value? pairs name = some value ↔ LastValue pairs name value ∧ value ≠ "" := by
  rw [EnvOverrides.value?, Option.filter_eq_some_iff, lookup_reverse_eq_some_iff,
    decide_eq_true_iff]

attribute [ext] OutputConfig LibrariesConfig GenerationConfig Config

namespace Config

variable {c r r' : Config} {pairs : List (String × String)} {a : ArgOverrides}
  {heard : String → Option String} {fault : SettingFault}

/-! ## Settings -/

/-- What the layers come to, setting by setting: the file, what variables say as far as they count,
and the command line. -/
structure Layered (c : Config) (heard : String → Option String) (a : ArgOverrides) (r : Config) :
    Prop where
  dir : r.output.dir = a.output.getD c.output.dir
  guestEncoderDir : r.output.guestEncoderDir = a.guestEncoderDir.or
    (((heard "VK_CEREAL_GUEST_ENCODER_DIR").map Path.mk).or c.output.guestEncoderDir)
  hostDecoderDir : r.output.hostDecoderDir = a.hostDecoderDir.or
    (((heard "VK_CEREAL_HOST_DECODER_DIR").map Path.mk).or c.output.hostDecoderDir)
  dryRun : r.output.dryRun = a.dryRun.getD c.output.dryRun
  base : r.libraries.base = (heard "VK_CEREAL_BASELIB_PREFIX").getD c.libraries.base
  guestBase : r.libraries.guestBase =
    (heard "VK_CEREAL_GUEST_BASELIB_PREFIX").getD c.libraries.guestBase
  baseLink : r.libraries.baseLink = (heard "VK_CEREAL_BASELIB_LINKNAME").getD c.libraries.baseLink
  headerTarget : r.libraries.headerTarget =
    (heard "VK_CEREAL_VK_HEADER_TARGET").getD c.libraries.headerTarget
  utilsLink : r.libraries.utilsLink =
    (heard "VK_CEREAL_UTILS_LINKNAME").getD c.libraries.utilsLink
  utils : r.libraries.utils = (heard "VK_CEREAL_UTILS_PREFIX").getD c.libraries.utils
  /-- Only a file names the library of host modules. -/
  hostLibrary : r.libraries.hostLibrary = c.libraries.hostLibrary
  extraFeatures : r.generation.extraFeatures = c.generation.extraFeatures ++ a.extraFeatures
  /-- Whichever layer decides, the empty name stands for no module. -/
  suppress : r.generation.suppress = (a.suppress.or
    ((heard "ANDROID_EMU_VK_CEREAL_SUPPRESS").or c.generation.suppress)).filter (· ≠ "")
  commandLine : r.generation.commandLine = c.generation.commandLine

/-- The layers settle every setting. -/
theorem Layered.unique (h : Layered c heard a r) (h' : Layered c heard a r') : r = r' := by
  have houtput : r.output = r'.output :=
    OutputConfig.ext (h.dir.trans h'.dir.symm)
      (h.guestEncoderDir.trans h'.guestEncoderDir.symm)
      (h.hostDecoderDir.trans h'.hostDecoderDir.symm) (h.dryRun.trans h'.dryRun.symm)
  have hlibraries : r.libraries = r'.libraries :=
    LibrariesConfig.ext (h.base.trans h'.base.symm) (h.guestBase.trans h'.guestBase.symm)
      (h.baseLink.trans h'.baseLink.symm) (h.headerTarget.trans h'.headerTarget.symm)
      (h.utilsLink.trans h'.utilsLink.symm) (h.utils.trans h'.utils.symm)
      (h.hostLibrary.trans h'.hostLibrary.symm)
  have hgeneration : r.generation = r'.generation :=
    GenerationConfig.ext (h.extraFeatures.trans h'.extraFeatures.symm)
      (h.suppress.trans h'.suppress.symm) (h.commandLine.trans h'.commandLine.symm)
  exact Config.ext houtput hlibraries hgeneration

/-- Leaving an empty module name out keeps the others. -/
theorem withoutEmptySuppression_eq (c : Config) :
    c.withoutEmptySuppression =
      { c with generation.suppress := c.generation.suppress.filter (· ≠ "") } := by
  rw [withoutEmptySuppression]
  split
  case isTrue hempty =>
    rw [hempty]
    rfl
  case isFalse hkept =>
    have hsame : c.generation.suppress.filter (· ≠ "") = c.generation.suppress := by
      cases hmodule : c.generation.suppress with
      | none => rfl
      | some module =>
          refine Option.filter_some_pos (decide_eq_true ?_)
          exact fun hempty => hkept (hmodule.trans (congrArg some hempty))
    rw [hsame]

/-- One layer after the other comes to what is said of each setting. -/
theorem layered_withArgs (c : Config) (pairs : List (String × String)) (a : ArgOverrides) :
    Layered c (EnvOverrides.value? pairs) a
      ((c.withEnv (.ofPairs pairs)).withArgs a).withoutEmptySuppression := by
  rw [withoutEmptySuppression_eq]
  constructor <;> rfl

/-! ## Checks -/

/-- A configuration that is accepted. -/
structure Usable (r : Config) : Prop where
  dir : r.output.dir.text ≠ ""
  hostLibrary : r.libraries.hostLibrary ≠ ""
  extraFeatures : ∀ feature ∈ r.generation.extraFeatures, feature ≠ ""

/-- What is reported of a configuration: the first of its settings that is no use. -/
inductive FirstProblem (r : Config) : SettingFault → Prop
  | dir (hempty : r.output.dir.text = "") : FirstProblem r ⟨"output.dir", "must not be empty"⟩
  | hostLibrary (hdir : r.output.dir.text ≠ "") (hempty : r.libraries.hostLibrary = "") :
      FirstProblem r ⟨"libraries.host_library", "must not be empty"⟩
  | extraFeatures (hdir : r.output.dir.text ≠ "") (hlibrary : r.libraries.hostLibrary ≠ "")
      (hempty : "" ∈ r.generation.extraFeatures) :
      FirstProblem r ⟨"generation.extra_features", "invalid feature name \"\""⟩

theorem fault?_eq_none_iff : r.fault? = none ↔ r.Usable := by
  rw [fault?]
  constructor
  · intro h
    split_ifs at h with hdir hlibrary hfeature
    exact ⟨hdir, hlibrary, fun feature hmem hempty => hfeature (hempty ▸ hmem)⟩
  · rintro ⟨hdir, hlibrary, hfeatures⟩
    rw [if_neg hdir, if_neg hlibrary, if_neg fun hmem => hfeatures "" hmem rfl]

theorem fault?_eq_some_iff : r.fault? = some fault ↔ r.FirstProblem fault := by
  rw [fault?]
  constructor
  · intro h
    split_ifs at h with hdir hlibrary hfeature <;> cases h
    · exact .dir hdir
    · exact .hostLibrary hdir hlibrary
    · exact .extraFeatures hdir hlibrary hfeature
  · intro h
    cases h with
    | dir hempty => rw [if_pos hempty]
    | hostLibrary hdir hempty => rw [if_neg hdir, if_pos hempty]
    | extraFeatures hdir hlibrary hempty => rw [if_neg hdir, if_neg hlibrary, if_pos hempty]

/-- All layers together: what they come to, or what is reported of it. -/
theorem layered?_eq (h : Layered c (EnvOverrides.value? pairs) a r) :
    c.layered? (.ofPairs pairs) a =
      match r.fault? with
      | some fault => .error fault
      | none => .ok r := by
  rw [h.unique (layered_withArgs c pairs a)]
  rfl

theorem layered?_eq_ok_iff (h : Layered c (EnvOverrides.value? pairs) a r) :
    c.layered? (.ofPairs pairs) a = .ok r' ↔ r' = r ∧ r.Usable := by
  rw [layered?_eq h, ← fault?_eq_none_iff]
  cases r.fault? with
  | none => simp [eq_comm]
  | some fault => simp

theorem layered?_eq_error_iff (h : Layered c (EnvOverrides.value? pairs) a r) :
    c.layered? (.ofPairs pairs) a = .error fault ↔ r.FirstProblem fault := by
  rw [layered?_eq h, ← fault?_eq_some_iff]
  cases r.fault? <;> simp

/-! ## Options -/

/-- The options of a configuration that does not keep an empty name: nothing is lost, and banners
and build fragments name the same command. -/
theorem generatorOptions_eq (h : r.generation.suppress ≠ some "") (commandLine : String) :
    r.generatorOptions commandLine =
      { outputDir := r.output.dir
        guestEncoderDir := r.output.guestEncoderDir
        hostDecoderDir := r.output.hostDecoderDir
        suppressExcept := r.generation.suppress
        dryRun := r.output.dryRun
        templates := .ofCommand (r.generation.commandLine.getD commandLine)
        fragments := {
          commandLine := r.generation.commandLine.getD commandLine
          hostLibrary := r.libraries.hostLibrary
          baseLibrary := r.libraries.baseLink
          headerTarget := r.libraries.headerTarget
          utilsLibrary := r.libraries.utilsLink } } := by
  have hkeep : (r.generatorOptions commandLine).suppressExcept = r.generation.suppress :=
    suppressExcept_generatorOptions h
  rw [← hkeep]
  rfl

/-- After a configuration has been loaded, resolving it is putting the layers together. -/
theorem run_resolveConfig {asked : Option Path} {d d' : Disk} (env : EnvOverrides)
    (a : ArgOverrides) (hload : (loadConfig asked : OnDisk _).run d = (.ok c, d')) :
    (resolveConfig asked env a : OnDisk _).run d =
      ((c.layered? env a).mapError .setting, d') := by
  rw [resolveConfig, OnDisk.run_bind hload]
  dsimp only
  cases c.layered? env a <;> rfl

/-- What a resolved configuration is: each setting is the one of the layer that decides about it,
where a variable counts only if the last value it is given is not empty. It is refused with the
first setting that is no use, and else leads to options that keep every setting, with the module to
keep as it has been resolved. -/
theorem layered_field_by_field (c : Config) (pairs : List (String × String)) (a : ArgOverrides) :
    ∃ heard r,
      (∀ name value, heard name = some value ↔ LastValue pairs name value ∧ value ≠ "") ∧
      Layered c heard a r ∧
      (∀ r', c.layered? (.ofPairs pairs) a = .ok r' ↔ r' = r ∧ r.Usable) ∧
      (∀ fault, c.layered? (.ofPairs pairs) a = .error fault ↔ r.FirstProblem fault) ∧
      (∀ commandLine, r.generatorOptions commandLine =
        { outputDir := r.output.dir
          guestEncoderDir := r.output.guestEncoderDir
          hostDecoderDir := r.output.hostDecoderDir
          suppressExcept := r.generation.suppress
          dryRun := r.output.dryRun
          templates := .ofCommand (r.generation.commandLine.getD commandLine)
          fragments := {
            commandLine := r.generation.commandLine.getD commandLine
            hostLibrary := r.libraries.hostLibrary
            baseLibrary := r.libraries.baseLink
            headerTarget := r.libraries.headerTarget
            utilsLibrary := r.libraries.utilsLink } }) ∧
      r.layoutSettings = {
        guestBase := r.libraries.guestBase
        base := r.libraries.base
        utils := r.libraries.utils } ∧
      ∀ asked d d', (loadConfig asked : OnDisk _).run d = (.ok c, d') →
        (resolveConfig asked (.ofPairs pairs) a : OnDisk _).run d =
          ((c.layered? (.ofPairs pairs) a).mapError .setting, d') := by
  have hlayered := layered_withArgs c pairs a
  refine ⟨EnvOverrides.value? pairs, _, ?_, hlayered, ?_, ?_, ?_, rfl, ?_⟩
  · exact fun name value => EnvOverrides.value?_eq_some_iff
  · exact fun r' => layered?_eq_ok_iff hlayered
  · exact fun fault => layered?_eq_error_iff hlayered
  · exact fun commandLine => generatorOptions_eq (suppress_withoutEmptySuppression _) commandLine
  · exact fun asked d d' hload => run_resolveConfig (.ofPairs pairs) a hload

/-- An empty last value does not count, and an empty module name on the command line outdoes the
one in the environment. -/
theorem layered_field_by_field_sample :
    (resolveConfig none
        (.ofPairs [("VK_CEREAL_UTILS_PREFIX", "old/utils"),
          ("ANDROID_EMU_VK_CEREAL_SUPPRESS", "VkDecoder"),
          ("VK_CEREAL_BASELIB_PREFIX", "android/base"), ("VK_CEREAL_UTILS_PREFIX", "")])
        { output := some "out", suppress := some "" } : OnDisk _).run ⟨[], []⟩ =
      (.ok { output := { dir := "out" }, libraries := { base := "android/base" } }, ⟨[], []⟩) := by
  obtain ⟨_, _, _, _, _, _, _, _, hresolve⟩ := layered_field_by_field {}
    [("VK_CEREAL_UTILS_PREFIX", "old/utils"), ("ANDROID_EMU_VK_CEREAL_SUPPRESS", "VkDecoder"),
      ("VK_CEREAL_BASELIB_PREFIX", "android/base"), ("VK_CEREAL_UTILS_PREFIX", "")]
    { output := some "out", suppress := some "" }
  exact hresolve none ⟨[], []⟩ ⟨[], []⟩ rfl

end Config

end VulkanWire
