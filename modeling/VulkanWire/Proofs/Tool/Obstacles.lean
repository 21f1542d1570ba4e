import VulkanWire.Proofs.Output.Trail
import VulkanWire.Tool.Generate

/-!
# Comparing texts with files

A comparison reads the file of every artifact as text. A path that leads nowhere
is a missing file, and a text that differs a stale one. Everything else ends the
comparison with a fault: a path through a file that should be a directory, a
directory where the file should be, and a file whose bytes are no text.

## Main definitions

* `Disk.obstacle?` — why a path cannot be compared with a text.
* `Disk.compared` — artifacts sorted by the files on a disk.
* `Disk.comparison` — what a comparison ends with.

## Main results

* `Disk.reads_readText` — the ways in which reading a path ends.
* `compareDeliveries_preview` — a comparison up to its first obstacle.
-/

namespace VulkanWire

namespace Disk

/-! ## What a path leads to -/

/-- The bytes of the file that a path leads to. -/
def bytesAt? (d : Disk) (p : Path) : Option ByteArray :=
  match d.stat p with
  | .ok place => d.fileAt? place
  | .error _ => none

/-- Why what stands at a path cannot be compared with a text, though something may differ there. -/
def obstacle? (d : Disk) (p : Path) : Option FileFault :=
  match d.stat p with
  | .error .missing => none
  | .error cause => some cause
  | .ok place =>
    match d.fileAt? place with
    | none => some .isDirectory
    | some bytes => if bytes.IsValidUTF8 then none else some .notText

/-- Whether nothing is at a path, or a file on the way there that should be a directory. -/
def isAbsent (d : Disk) (p : Path) : Bool :=
  match d.stat p with
  | .error .missing => true
  | .error .notDirectory => true
  | _ => false

/-- Whether a path leads to a file. -/
def isFile (d : Disk) (p : Path) : Bool := (d.bytesAt? p).isSome

/-- Whether a path leads to a file that holds something else than a text. -/
def holdsOther (d : Disk) (p : Path) (text : String) : Bool :=
  match d.bytesAt? p with
  | some bytes => !(bytes.instDecidableEq text.toUTF8).decide
  | none => false

variable {d : Disk} {p : Path}

theorem holdsOther_of_bytesAt? {bytes : ByteArray} {text : String}
    (h : d.bytesAt? p = some bytes) : d.holdsOther p text = true ↔ bytes ≠ text.toUTF8 := by
  rw [holdsOther, h]
  simp

theorem holdsOther_of_none {text : String} (h : d.bytesAt? p = none) :
    d.holdsOther p text = false := by
  rw [holdsOther, h]

/-- The three ways in which reading a path ends. -/
inductive Reads (d : Disk) (p : Path) : Except FileFault String → Prop where
  | text (text : String) (bytes : d.bytesAt? p = some text.toUTF8) (clear : d.obstacle? p = none) :
      Reads d p (.ok text)
  | missing (bytes : d.bytesAt? p = none) (clear : d.obstacle? p = none) :
      Reads d p (.error .missing)
  | obstacle (cause : FileFault) (there : cause ≠ .missing)
      (obstacle : d.obstacle? p = some cause) : Reads d p (.error cause)

/-- Bytes that are no text have none. -/
theorem not_isValidUTF8_of_fromUTF8? {bytes : ByteArray} (h : String.fromUTF8? bytes = none) :
    ¬ bytes.IsValidUTF8 := by
  intro hvalid
  rw [String.fromUTF8?, dif_pos hvalid] at h
  cases h

theorem reads_readText (d : Disk) (p : Path) : Reads d p (d.readText p) := by
  cases hstat : d.stat p with
  | error cause =>
      have hread : d.readText p = .error cause := by
        simp only [readText, readBytes, hstat, bind, Except.bind]
      rw [hread]
      by_cases hcause : cause = .missing
      · subst hcause
        exact .missing (by simp only [bytesAt?, hstat]) (by simp only [obstacle?, hstat])
      · refine .obstacle cause hcause ?_
        simp only [obstacle?, hstat]
  | ok place =>
      cases hfile : d.fileAt? place with
      | none =>
          have hread : d.readText p = .error .isDirectory := by
            simp only [readText, readBytes_of_no_file hstat hfile, bind, Except.bind]
          rw [hread]
          refine .obstacle .isDirectory (by simp) ?_
          simp only [obstacle?, hstat, hfile]
      | some bytes =>
          have hbytes : d.bytesAt? p = some bytes := by simp only [bytesAt?, hstat, hfile]
          have hread : d.readBytes p = .ok bytes := readBytes_of_fileAt? hstat hfile
          cases hdecode : String.fromUTF8? bytes with
          | some text =>
              have htext : d.readText p = .ok text := by
                simp only [readText, hread, bind, Except.bind, hdecode]
              obtain rfl := fromUTF8?_eq_some_iff.mp hdecode
              rw [htext]
              refine .text text hbytes ?_
              simp only [obstacle?, hstat, hfile]
              exact if_pos text.isValidUTF8
          | none =>
              have htext : d.readText p = .error .notText := by
                simp only [readText, hread, bind, Except.bind, hdecode]
              rw [htext]
              refine .obstacle .notText (by simp) ?_
              simp only [obstacle?, hstat, hfile]
              exact if_neg (not_isValidUTF8_of_fromUTF8? hdecode)

/-- What is no file is absent, where everything else is excluded. -/
theorem isNone_bytesAt?_eq (h : d.isAbsent p = true ∨ d.isFile p = true) :
    (d.bytesAt? p).isNone = d.isAbsent p := by
  cases hbytes : d.bytesAt? p with
  | none =>
      rw [isFile, hbytes] at h
      exact (h.resolve_right (by simp)).symm
  | some bytes =>
      unfold bytesAt? at hbytes
      split at hbytes
      · rename_i place hstat
        rw [isAbsent, hstat]
        rfl
      · cases hbytes

/-- There, the obstacles are files in the place of directories and files that are no text. -/
theorem obstacle?_eq_none_iff (h : d.isAbsent p = true ∨ d.isFile p = true) :
    d.obstacle? p = none ↔
      d.stat p ≠ .error .notDirectory ∧ ∀ bytes, d.bytesAt? p = some bytes → bytes.IsValidUTF8 := by
  rcases h with habsent | hfile
  · unfold isAbsent at habsent
    split at habsent
    · rename_i hstat
      simp [obstacle?, bytesAt?, hstat]
    · rename_i hstat
      simp [obstacle?, hstat]
    · cases habsent
  · obtain ⟨bytes, hbytes⟩ := Option.isSome_iff_exists.mp hfile
    have hplace := hbytes
    unfold bytesAt? at hplace
    split at hplace
    · rename_i place hstat
      simp [obstacle?, hstat, hplace, hbytes]
    · cases hplace

/-! ## Comparing artifacts -/

/-- Artifacts sorted by the files on a disk. -/
def compared (d : Disk) (as : List Artifact) : Comparison where
  checked := as.length
  stale := (as.filter fun a => d.holdsOther a.path a.content).map (·.path)
  missing := (as.filter fun a => (d.bytesAt? a.path).isNone).map (·.path)

/-- What a comparison with a disk ends with: with the first obstacle, or with all artifacts
sorted. -/
def comparison (d : Disk) (as : List Artifact) : Except FileFault Comparison :=
  match as.findSome? fun a => d.obstacle? a.path with
  | none => .ok (d.compared as)
  | some cause => .error cause

variable {a : Artifact} {as : List Artifact}

theorem comparison_cons_of_obstacle {cause : FileFault} (h : d.obstacle? a.path = some cause) :
    d.comparison (a :: as) = .error cause := by
  rw [comparison, List.findSome?_cons_of_isSome (by rw [h]; rfl), h]

/-- Behind an artifact without an obstacle, the rest decides. -/
theorem map_comparison {add : Comparison → Comparison} (h : d.obstacle? a.path = none)
    (hadd : d.compared (a :: as) = add (d.compared as)) :
    (d.comparison as).map add = d.comparison (a :: as) := by
  rw [comparison, comparison, List.findSome?_cons_of_isNone (by rw [h]; rfl), hadd]
  cases as.findSome? fun a => d.obstacle? a.path <;> rfl

theorem compared_cons_of_text {text : String} (h : d.bytesAt? a.path = some text.toUTF8) :
    d.compared (a :: as) =
      { d.compared as with
        checked := (d.compared as).checked + 1
        stale := if text = a.content then (d.compared as).stale
          else a.path :: (d.compared as).stale } := by
  have hother : d.holdsOther a.path a.content = true ↔ text ≠ a.content := by
    rw [holdsOther_of_bytesAt? h, String.toUTF8_eq_toByteArray, String.toUTF8_eq_toByteArray,
      ne_eq, String.toByteArray_inj]
  by_cases hcontent : text = a.content <;> simp [compared, h, hother, hcontent]

theorem compared_cons_of_missing (h : d.bytesAt? a.path = none) :
    d.compared (a :: as) =
      { d.compared as with
        checked := (d.compared as).checked + 1
        missing := a.path :: (d.compared as).missing } := by
  simp [compared, h, holdsOther_of_none h]

/-! ### What a report is made of -/

theorem compared_missing_sublist (d : Disk) (as : List Artifact) :
    (d.compared as).missing.Sublist (as.map (·.path)) :=
  List.filter_sublist.map _

theorem compared_stale_sublist (d : Disk) (as : List Artifact) :
    (d.compared as).stale.Sublist (as.map (·.path)) :=
  List.filter_sublist.map _

/-- No path is both missing and stale, even if artifacts share it. -/
theorem compared_disjoint (d : Disk) (as : List Artifact) :
    ∀ p ∈ (d.compared as).missing, p ∉ (d.compared as).stale := by
  intro p hmissing hstale
  obtain ⟨a, ha, rfl⟩ := List.mem_map.mp hmissing
  obtain ⟨b, hb, hpath⟩ := List.mem_map.mp hstale
  have hnone : d.bytesAt? a.path = none := by simpa using (List.mem_filter.mp ha).2
  have hother := (List.mem_filter.mp hb).2
  rw [hpath, holdsOther_of_none hnone] at hother
  cases hother

theorem compared_isUpToDate (d : Disk) (as : List Artifact) :
    (d.compared as).isUpToDate = true ↔
      ∀ a ∈ as, d.bytesAt? a.path = some a.content.toUTF8 := by
  rw [Comparison.isUpToDate, Bool.and_eq_true, List.isEmpty_iff, List.isEmpty_iff, compared,
    List.map_eq_nil_iff, List.map_eq_nil_iff, List.filter_eq_nil_iff, List.filter_eq_nil_iff,
    ← forall_and]
  refine forall_congr' fun a => ?_
  rw [← imp_and]
  refine imp_congr_right fun _ => ?_
  cases hbytes : d.bytesAt? a.path with
  | none => simp
  | some bytes => simp [holdsOther_of_bytesAt? hbytes]

end Disk

open Disk in
/-- A comparison of artifacts that were only shown leaves the disk alone. -/
theorem compareDeliveries_preview (as : List Artifact) (d : Disk) :
    (compareDeliveries (as.map Artifact.preview) : OnDisk _).run d = (d.comparison as, d) := by
  induction as with
  | nil => rfl
  | cons a as ih =>
      have hread : (Storage.readText a.path : OnDisk _).run d = (d.readText a.path, d) := rfl
      have hreads := reads_readText d a.path
      show ((Storage.readText a.path : OnDisk _) >>= _).run d = _
      rw [OnDisk.run_bind hread]
      generalize d.readText a.path = read at hreads
      cases hreads with
      | text text bytes clear =>
          refine (OnDisk.run_bind ih).trans ?_
          show (Except.map _ (d.comparison as), d) = _
          exact Prod.ext (map_comparison clear (compared_cons_of_text bytes)) rfl
      | missing bytes clear =>
          refine (OnDisk.run_bind ih).trans ?_
          exact Prod.ext (map_comparison clear (compared_cons_of_missing bytes)) rfl
      | obstacle cause there obstacle =>
          rw [comparison_cons_of_obstacle obstacle]
          cases cause with
          | missing => exact absurd rfl there
          | _ => rfl

end VulkanWire
