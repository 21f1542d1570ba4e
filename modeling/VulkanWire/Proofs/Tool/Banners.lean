import Mathlib.Data.List.Forall2
import VulkanWire.Proofs.Output.Trail
import VulkanWire.Proofs.Path.Slashes
import VulkanWire.Tool.Banner

/-!
# Paths in banners

A banner shows the arguments of a command. An argument that names no existing
path stands as it is, and any other one is spelled out of its components: those
below the working directory if it is an absolute path that lies there, and all
of them otherwise. Seen from the working directory, what is shown leads where
the argument leads. What is shown of a path below the working directory does
not depend on where that directory is, so that a banner is the same wherever
its sources are checked out.

The root is spelled by a slash and divided from what follows by another one, so
an absolute path elsewhere is shown with two slashes in front.

## Main definitions

* `shownArgument` — an argument as the banner shows it on a disk.
* `CommandWord` — an argument by its place below a directory, or by its text.
* `BannerText` — what a banner shows of an argument.

## Main results

* `bannerCommand_run` — a banner shows its arguments one by one.
* `banner_survives_move`, `regeneration_survives_move` — a banner in a directory of
  one disk and in a directory of another one.
* `banner_keeps_checkout` — banners do not depend on the working directory.
* `banner_leads_back` — what is shown leads where the argument leads.
* `outside_path_doubles_slash` — a path outside of the working directory.
-/

namespace VulkanWire

/-- Whether a path leads to anything on a disk. -/
def Disk.holds (d : Disk) (p : Path) : Bool := (d.stat p).isOk

/-- An argument as the banner shows it on a disk. -/
def shownArgument (d : Disk) (workingDir : Path) (arg : String) : String :=
  if d.holds ⟨arg⟩ then bannerPath workingDir ⟨arg⟩ else arg

variable {d : Disk} {workingDir p : Path} {ps : List Path.Component} {arg : String}

theorem bannerArgument_run (d : Disk) (workingDir : Path) (arg : String) :
    (bannerArgument workingDir arg : OnDisk _).run d = (shownArgument d workingDir arg, d) := by
  have hpresent : (Storage.present ⟨arg⟩ : OnDisk _).run d = (d.holds ⟨arg⟩, d) := rfl
  refine (OnDisk.run_bind hpresent).trans ?_
  rw [shownArgument]
  cases d.holds ⟨arg⟩ <;> rfl

theorem bannerArguments_run (d : Disk) (workingDir : Path) (args : List String) :
    (bannerArguments workingDir args : OnDisk _).run d =
      (args.map (shownArgument d workingDir), d) := by
  induction args with
  | nil => rfl
  | cons arg args ih =>
      exact (OnDisk.run_bind (bannerArgument_run d workingDir arg)).trans (OnDisk.run_bind ih)

/-- A banner shows its arguments one by one. -/
theorem bannerCommand_run (d : Disk) (workingDir : Path) (args : List String) :
    (bannerCommand workingDir args : OnDisk _).run d =
      (" ".intercalate (args.map (shownArgument d workingDir)), d) :=
  OnDisk.run_bind (bannerArguments_run d workingDir args)

/-! ## Paths that lead somewhere -/

/-- Components as a banner spells them, with a dot if there are none. -/
def spellOrDot (ps : List Path.Component) : String := if ps = [] then "." else Path.spell ps

theorem bannerPath_of_relative (h : p.isAbsolute = false) :
    bannerPath workingDir p = spellOrDot p.components := by
  rw [bannerPath, h]
  rfl

theorem bannerPath_of_below (habsolute : p.isAbsolute = true)
    (h : p.components = workingDir.components ++ ps) : bannerPath workingDir p = spellOrDot ps := by
  rw [bannerPath, habsolute, Path.relativeTo?_eq_some_iff.mpr h]
  rfl

theorem bannerPath_of_outside (habsolute : p.isAbsolute = true)
    (h : ¬ workingDir.components <+: p.components) :
    bannerPath workingDir p = Path.spell p.components := by
  have hne : p.components ≠ [] := by
    intro hnil
    have hhead := p.shape.head?_iff.mpr habsolute
    rw [hnil] at hhead
    cases hhead
  rw [bannerPath, habsolute, Path.relativeTo?_eq_none_iff.mpr h]
  exact if_neg hne

theorem shownArgument_of_holds (h : d.holds ⟨arg⟩ = true) :
    shownArgument d workingDir arg = bannerPath workingDir ⟨arg⟩ := if_pos h

theorem shownArgument_of_not_holds (h : d.holds ⟨arg⟩ = false) :
    shownArgument d workingDir arg = arg := by
  rw [shownArgument, h]
  rfl

/-! ## Places below the working directory -/

/-- An argument of a command, by its place below a directory or by its text. -/
inductive CommandWord where
  | below (place : Path)
  | fixed (arg : String)

namespace CommandWord

/-- The argument that a word stands for, with places below a given directory. -/
def argument (dir : Path) : CommandWord → String
  | below place => (dir.join place).text
  | fixed arg => arg

/-- A word for either of two directories: a relative place that leads somewhere below both of them,
or an argument that is a relative path or leads nowhere. -/
inductive Portable (d : Disk) (dir dir' : Path) : CommandWord → Prop where
  | below {place : Path} (relative : place.isAbsolute = false)
      (there : d.holds (dir.join place) = true) (there' : d.holds (dir'.join place) = true) :
      Portable d dir dir' (.below place)
  | relative {arg : String} (h : (Path.mk arg).isAbsolute = false) : Portable d dir dir' (.fixed arg)
  | absent {arg : String} (h : d.holds ⟨arg⟩ = false) : Portable d dir dir' (.fixed arg)

/-- A word for a directory of one disk and one of another: the disks may have different working
directories, so that a relative path must lead somewhere on both or on neither. -/
inductive Moved (d d' : Disk) (dir dir' : Path) : CommandWord → Prop where
  | below {place : Path} (relative : place.isAbsolute = false)
      (there : d.holds (dir.join place) = true) (there' : d'.holds (dir'.join place) = true) :
      Moved d d' dir dir' (.below place)
  | relative {arg : String} (h : (Path.mk arg).isAbsolute = false)
      (alike : d.holds ⟨arg⟩ = d'.holds ⟨arg⟩) : Moved d d' dir dir' (.fixed arg)
  | absent {arg : String} (h : d.holds ⟨arg⟩ = false) (h' : d'.holds ⟨arg⟩ = false) :
      Moved d d' dir dir' (.fixed arg)

theorem Portable.moved {dir dir' : Path} {w : CommandWord} (h : w.Portable d dir dir') :
    w.Moved d d dir dir' := by
  cases h with
  | below relative there there' => exact .below relative there there'
  | relative h => exact .relative h rfl
  | absent h => exact .absent h h

end CommandWord

/-- The components of a place but for dots with slashes between them, or a dot if there are none. -/
def placeText (place : Path) : String :=
  let ps := place.components.filter (· ≠ .here)
  if ps = [] then "." else "/".intercalate (ps.map Path.Component.text)

/-- A place below an absolute working directory is shown without that directory. -/
theorem shownArgument_join {place : Path} (hdir : workingDir.isAbsolute = true)
    (hplace : place.isAbsolute = false) (hholds : d.holds (workingDir.join place) = true) :
    shownArgument d workingDir (workingDir.join place).text = placeText place := by
  have hcomponents := Path.components_join (Path.text_ne_of_isAbsolute hdir) hplace
  have habsolute := Path.isAbsolute_join hdir hplace
  calc
    shownArgument d workingDir (workingDir.join place).text =
        bannerPath workingDir (workingDir.join place) := if_pos hholds
    _ = spellOrDot (place.components.filter (· ≠ .here)) := bannerPath_of_below habsolute hcomponents
    _ = placeText place := rfl

/-- What is shown of a relative path, or of what leads nowhere, depends on no directory. -/
theorem shownArgument_congr {d' : Disk} {dir dir' : Path} (hsame : d.holds ⟨arg⟩ = d'.holds ⟨arg⟩)
    (h : (Path.mk arg).isAbsolute = false ∨ d.holds ⟨arg⟩ = false) :
    shownArgument d dir arg = shownArgument d' dir' arg := by
  cases hholds : d.holds ⟨arg⟩ with
  | false =>
      rw [shownArgument_of_not_holds hholds, shownArgument_of_not_holds (hsame ▸ hholds)]
  | true =>
      have hrelative := h.resolve_right (by simp [hholds])
      rw [shownArgument_of_holds hholds, shownArgument_of_holds (hsame ▸ hholds),
        bannerPath_of_relative hrelative, bannerPath_of_relative hrelative]

theorem CommandWord.Moved.shownArgument_eq {d' : Disk} {dir dir' : Path} {w : CommandWord}
    (h : w.Moved d d' dir dir') (hdir : dir.isAbsolute = true) (hdir' : dir'.isAbsolute = true) :
    shownArgument d dir (w.argument dir) = shownArgument d' dir' (w.argument dir') := by
  cases h with
  | below hrelative hthere hthere' =>
      exact (shownArgument_join hdir hrelative hthere).trans
        (shownArgument_join hdir' hrelative hthere').symm
  | relative h hsame => exact shownArgument_congr hsame (.inl h)
  | absent h h' => exact shownArgument_congr (h.trans h'.symm) (.inr h)

/-- A command with places below a directory has the same banner in that directory and in another
one, maybe on another disk, and it shows each of the places by its components. -/
theorem banner_survives_move (d d' : Disk) (dir dir' : Path) (words : List CommandWord)
    (hdir : dir.isAbsolute = true) (hdir' : dir'.isAbsolute = true)
    (hwords : ∀ w ∈ words, w.Moved d d' dir dir') :
    ∃ texts : List String,
      (bannerCommand dir (words.map (·.argument dir)) : OnDisk _).run d =
          (" ".intercalate texts, d) ∧
        (bannerCommand dir' (words.map (·.argument dir')) : OnDisk _).run d' =
          (" ".intercalate texts, d') ∧
        List.Forall₂ (fun w text => ∀ place, w = .below place → text = placeText place)
          words texts := by
  refine ⟨words.map fun w => shownArgument d dir (w.argument dir), ?_, ?_, ?_⟩
  · rw [bannerCommand_run, List.map_map]
    rfl
  · have htexts : (words.map (·.argument dir')).map (shownArgument d' dir') =
        words.map fun w => shownArgument d dir (w.argument dir) := by
      rw [List.map_map]
      exact List.map_congr_left fun w hw => ((hwords w hw).shownArgument_eq hdir hdir').symm
    rw [bannerCommand_run, htexts]
  · rw [List.forall₂_map_right_iff, List.forall₂_same]
    rintro w hw place rfl
    cases hwords _ hw with
    | below hrelative hthere _ => exact shownArgument_join hdir hrelative hthere

/-- So has the command that the tool itself puts there, for a schema that is given by a place below
the directory or by a path that is the same in both. -/
theorem regeneration_survives_move {d' : Disk} {dir dir' : Path} {schema : CommandWord}
    (hdir : dir.isAbsolute = true) (hdir' : dir'.isAbsolute = true)
    (hnames : ∀ arg ∈ ["vk-cereal", "generate", "--schema"], d.holds ⟨arg⟩ = d'.holds ⟨arg⟩)
    (hschema : schema.Moved d d' dir dir') :
    ∃ text : String,
      (regenerationCommand dir ⟨schema.argument dir⟩ : OnDisk _).run d = (text, d) ∧
        (regenerationCommand dir' ⟨schema.argument dir'⟩ : OnDisk _).run d' = (text, d') := by
  have hwords : ∀ w ∈ [.fixed "vk-cereal", .fixed "generate", .fixed "--schema", schema],
      w.Moved d d' dir dir' := by
    simp only [List.forall_mem_cons] at hnames ⊢
    exact ⟨.relative rfl hnames.1, .relative rfl hnames.2.1, .relative rfl hnames.2.2.1, hschema,
      fun w hw => absurd hw List.not_mem_nil⟩
  obtain ⟨texts, hrun, hrun', -⟩ := banner_survives_move d d' dir dir' _ hdir hdir' hwords
  exact ⟨_, hrun, hrun'⟩

/-- A command with places below the working directory has the same banner wherever that directory
is, and shows each of the places by its components. -/
theorem banner_keeps_checkout (d : Disk) (dir dir' : Path) (words : List CommandWord)
    (hdir : dir.isAbsolute = true) (hdir' : dir'.isAbsolute = true)
    (hwords : ∀ w ∈ words, w.Portable d dir dir') :
    ∃ texts : List String,
      (bannerCommand dir (words.map (·.argument dir)) : OnDisk _).run d =
          (" ".intercalate texts, d) ∧
        (bannerCommand dir' (words.map (·.argument dir')) : OnDisk _).run d =
          (" ".intercalate texts, d) ∧
        List.Forall₂ (fun w text => ∀ place, w = .below place → text = placeText place)
          words texts :=
  banner_survives_move d d dir dir' words hdir hdir' fun w hw => (hwords w hw).moved

/-- Two directories with a directory of the same name in each. -/
def twoDirectories : Disk where
  nodes := [(["etc"], .directory), (["etc", "vk"], .directory), (["tmp"], .directory),
    (["tmp", "vk"], .directory)]
  workingPlace := ["etc"]

/-- Words for either of the two directories. -/
def portableWords : List CommandWord :=
  [.fixed "vk-cereal", .below "./vk//", .below "", .fixed "vk/.", .below "vk/../vk", .fixed "/none//"]

theorem banner_keeps_checkout_sample :
    (Path.mk "/etc/").isAbsolute = true ∧ (Path.mk "/./tmp").isAbsolute = true ∧
      (∀ w ∈ portableWords, w.Portable twoDirectories "/etc/" "/./tmp") ∧
      ∃ texts : List String,
        (bannerCommand "/etc/" (portableWords.map (·.argument "/etc/")) : OnDisk _).run
            twoDirectories = (" ".intercalate texts, twoDirectories) ∧
          (bannerCommand "/./tmp" (portableWords.map (·.argument "/./tmp")) : OnDisk _).run
            twoDirectories = (" ".intercalate texts, twoDirectories) ∧
          List.Forall₂ (fun w text => ∀ place, w = .below place → text = placeText place)
            portableWords texts := by
  have hportable : ∀ w ∈ portableWords, w.Portable twoDirectories "/etc/" "/./tmp" := by
    simp only [portableWords, List.forall_mem_cons]
    refine ⟨.relative rfl, .below rfl ?_ ?_, .below rfl ?_ ?_, .relative rfl, .below rfl ?_ ?_,
      .absent ?_, fun w hw => absurd hw List.not_mem_nil⟩
    all_goals decide
  exact ⟨rfl, rfl, hportable,
    banner_keeps_checkout twoDirectories "/etc/" "/./tmp" portableWords rfl rfl hportable⟩

/-! ## What is shown of any argument -/

/-- What a banner shows of an argument. -/
structure BannerText (d : Disk) (workingDir : Path) (arg text : String) : Prop where
  /-- What leads nowhere stands as it is. -/
  verbatim : d.holds ⟨arg⟩ = false → text = arg
  /-- Seen from the working directory, the text leads where the argument leads. -/
  leads_back : d.holds ⟨arg⟩ = true →
    (workingDir.join ⟨text⟩).components = (workingDir.join ⟨arg⟩).components
  /-- There are two slashes in a row exactly in the text of an absolute path that does not lie below
  the working directory and is not the root. -/
  doubled : d.holds ⟨arg⟩ = true → (Path.HasDoubleSlash text ↔
    (Path.mk arg).isAbsolute = true ∧ ¬ workingDir.components <+: (Path.mk arg).components ∧
      (Path.mk arg).components ≠ [.root])
  /-- They are the first two characters, and no others. -/
  front : d.holds ⟨arg⟩ = true → Path.HasDoubleSlash text →
    ∃ rest, text = "/" ++ rest ∧ ¬ Path.HasDoubleSlash rest

theorem not_hasDoubleSlash_spellOrDot (h : ¬ Path.HasDoubleSlash (Path.spell ps)) :
    ¬ Path.HasDoubleSlash (spellOrDot ps) := by
  rw [spellOrDot]
  split
  · decide
  · exact h

/-- Joined to a base, a dot says as little as no components. -/
theorem components_join_dot (hbase : p.text ≠ "") : (p.join ⟨"."⟩).components = p.components :=
  (Path.components_join hbase rfl).trans (List.append_nil _)

theorem components_join_spellOrDot_of_relative (hdir : workingDir.isAbsolute = true)
    (h : p.isAbsolute = false) :
    (workingDir.join ⟨spellOrDot p.components⟩).components = (workingDir.join p).components := by
  have hbase := Path.text_ne_of_isAbsolute hdir
  rw [Path.components_join hbase h, spellOrDot]
  split
  · rename_i hnil
    rw [components_join_dot hbase, hnil]
    exact (List.append_nil _).symm
  · have hread := Path.components_spell p
    rw [Path.components_join hbase ((Path.isAbsolute_congr hread).trans h), hread]

theorem components_join_spellOrDot_of_below (hdir : workingDir.isAbsolute = true)
    (h : p.components = workingDir.components ++ ps) :
    (workingDir.join ⟨spellOrDot ps⟩).components = p.components := by
  rw [spellOrDot]
  split
  · rename_i hnil
    rw [components_join_dot (Path.text_ne_of_isAbsolute hdir), h, hnil, List.append_nil]
  · exact Path.components_join_spell h

theorem bannerText_bannerPath (hdir : workingDir.isAbsolute = true) (hholds : d.holds ⟨arg⟩ = true) :
    BannerText d workingDir arg (bannerPath workingDir ⟨arg⟩) := by
  have hverbatim {text : String} (h : d.holds ⟨arg⟩ = false) : text = arg := by
    rw [hholds] at h
    cases h
  by_cases habsolute : (Path.mk arg).isAbsolute = true
  · have hjoin : workingDir.join ⟨arg⟩ = ⟨arg⟩ := Path.join_of_isAbsolute habsolute
    by_cases hbelow : workingDir.components <+: (Path.mk arg).components
    · obtain ⟨ps, hps⟩ := hbelow
      have hsteps := Path.isStep_of_below (Path.text_ne_of_isAbsolute hdir) hps.symm
      have hsingle := not_hasDoubleSlash_spellOrDot (Path.not_hasDoubleSlash_spell hsteps)
      rw [bannerPath_of_below habsolute hps.symm]
      refine ⟨hverbatim, fun _ => ?_, fun _ => ?_, fun _ hdouble => absurd hdouble hsingle⟩
      · rw [hjoin]
        exact components_join_spellOrDot_of_below hdir hps.symm
      · exact iff_of_false hsingle fun h => h.2.1 ⟨ps, hps⟩
    -- the root is spelled like any other component, with a slash behind its own
    · rw [bannerPath_of_outside habsolute hbelow]
      have hread := Path.components_spell ⟨arg⟩
      refine ⟨hverbatim, fun _ => ?_, fun _ => ?_, fun _ _ =>
        Path.exists_spell_of_isAbsolute habsolute⟩
      · rw [hjoin, Path.join_of_isAbsolute ((Path.isAbsolute_congr hread).trans habsolute), hread]
      · rw [Path.hasDoubleSlash_spell_iff]
        exact and_congr_right' (iff_and_self.mpr fun _ => hbelow)
  · rw [Bool.not_eq_true] at habsolute
    have hsingle : ¬ Path.HasDoubleSlash (Path.spell (Path.mk arg).components) := by
      rw [Path.hasDoubleSlash_spell_iff, habsolute]
      exact fun h => absurd h.1 (by simp)
    have hshown := not_hasDoubleSlash_spellOrDot hsingle
    rw [bannerPath_of_relative habsolute]
    refine ⟨hverbatim, fun _ => ?_, fun _ => ?_, fun _ hdouble => absurd hdouble hshown⟩
    · exact components_join_spellOrDot_of_relative hdir habsolute
    · exact iff_of_false hshown fun h => absurd (habsolute.symm.trans h.1) (by simp)

theorem bannerText_shownArgument (hdir : workingDir.isAbsolute = true) (arg : String) :
    BannerText d workingDir arg (shownArgument d workingDir arg) := by
  cases hholds : d.holds ⟨arg⟩ with
  | false =>
      rw [shownArgument_of_not_holds hholds]
      refine ⟨fun _ => rfl, ?_, ?_, ?_⟩ <;> simp [hholds]
  | true =>
      rw [shownArgument_of_holds hholds]
      exact bannerText_bannerPath hdir hholds

/-- A banner shows what leads nowhere as it is, and anything else by a text that leads back to it
from the working directory. Only the text of an absolute path that does not lie below the working
directory has two slashes in a row. -/
theorem banner_leads_back (d : Disk) (workingDir : Path) (args : List String)
    (hdir : workingDir.isAbsolute = true) :
    ∃ texts : List String,
      (bannerCommand workingDir args : OnDisk _).run d = (" ".intercalate texts, d) ∧
        List.Forall₂ (BannerText d workingDir) args texts := by
  refine ⟨_, bannerCommand_run d workingDir args, ?_⟩
  rw [List.forall₂_map_right_iff, List.forall₂_same]
  exact fun arg _ => bannerText_shownArgument hdir arg

theorem banner_leads_back_sample :
    (Path.mk "/etc").isAbsolute = true ∧ ∃ texts : List String,
      (bannerCommand "/etc" ["/tmp/.", "./vk//", "vk//none"] : OnDisk _).run twoDirectories =
          (" ".intercalate texts, twoDirectories) ∧
        List.Forall₂ (BannerText twoDirectories "/etc") ["/tmp/.", "./vk//", "vk//none"] texts :=
  ⟨rfl, banner_leads_back twoDirectories "/etc" ["/tmp/.", "./vk//", "vk//none"] rfl⟩

/-- A path outside of the working directory is shown with two slashes in front. -/
theorem outside_path_doubles_slash :
    (Path.mk "/etc").isAbsolute = true ∧ twoDirectories.holds "/tmp" = true ∧
      (bannerCommand "/etc" ["/tmp"] : OnDisk _).run twoDirectories = ("//tmp", twoDirectories) ∧
      Path.HasDoubleSlash "//tmp" := by
  refine ⟨rfl, by decide, ?_, by decide⟩
  rw [bannerCommand_run]
  exact congrArg (·, twoDirectories) (by decide)

end VulkanWire
