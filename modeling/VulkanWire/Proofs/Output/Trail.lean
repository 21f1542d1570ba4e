import VulkanWire.Output.Artifact
import VulkanWire.Proofs.Storage.Writing

/-!
# The trail of a delivery on a disk

Whatever a delivery does to a disk is creating directories and writing
artifacts. A `Trail` records the artifacts written on the way from one disk to
another, in order. From it alone follows what the disk holds in the end: a file
changes only where a written artifact's path leads, and if artifacts that share
a file share their content, every file holds its artifact.

## Main results

* `Trail.exists_of_changed` — no other file changes.
* `Trail.readText` — every artifact can be read back.
-/

namespace VulkanWire

/-! ## Programs on a disk -/

namespace OnDisk

theorem run_bind {α β : Type} {x : OnDisk α} {f : α → OnDisk β} {d d' : Disk} {a : α}
    (h : x.run d = (a, d')) : (x >>= f).run d = (f a).run d' := by
  show (f (x.run d).1).run (x.run d).2 = (f a).run d'
  rw [h]

end OnDisk

/-! ## Trails -/

/-- The way from one disk to another, with the artifacts that are written on it. -/
inductive Trail : Disk → List Artifact → Disk → Prop where
  | done (d : Disk) : Trail d [] d
  | makeDir {d d' d'' : Disk} {p : Path} {as : List Artifact} (h : d.makeDir p = .ok d')
      (rest : Trail d' as d'') : Trail d as d''
  | write {d d' d'' : Disk} {a : Artifact} {as : List Artifact}
      (h : d.write a.path a.content.toUTF8 = .ok d') (rest : Trail d' as d'') :
      Trail d (a :: as) d''

namespace Trail

variable {d d' d'' : Disk} {as bs : List Artifact}

theorem append (h : Trail d as d') (h' : Trail d' bs d'') : Trail d (as ++ bs) d'' := by
  induction h with
  | done d => exact h'
  | makeDir hmake rest ih => exact .makeDir hmake (ih h')
  | write hwrite rest ih => exact .write hwrite (ih h')

/-- A delivery only adds to a disk. -/
theorem grows (h : Trail d as d') : d.Grows d' := by
  induction h with
  | done d => exact Disk.Grows.refl d
  | makeDir hmake rest ih => exact (Disk.grows_of_makeDir hmake).trans ih
  | write hwrite rest ih => exact (Disk.grows_of_write hwrite).trans ih

/-- A place to which no written artifact's path leads holds what it held. -/
theorem fileAt?_of_ne (h : Trail d as d') {place : Place}
    (hne : ∀ a ∈ as, d'.stat a.path ≠ .ok place) : d'.fileAt? place = d.fileAt? place := by
  induction h with
  | done d => rfl
  | makeDir hmake rest ih => rw [ih hne, Disk.fileAt?_of_makeDir hmake]
  | write hwrite rest ih =>
      obtain ⟨target, hstat, -, hothers⟩ := Disk.exists_place_of_write hwrite
      have htarget : place ≠ target := by
        rintro rfl
        exact hne _ List.mem_cons_self (rest.grows.stat hstat)
      rw [ih fun a ha => hne a (List.mem_cons_of_mem _ ha), hothers place htarget]

/-- Where a file has changed, the path of a written artifact leads. -/
theorem exists_of_changed (h : Trail d as d') {place : Place}
    (hchanged : d'.fileAt? place ≠ d.fileAt? place) : ∃ a ∈ as, d'.stat a.path = .ok place := by
  apply Classical.byContradiction
  intro hnone
  refine hchanged (h.fileAt?_of_ne ?_)
  intro a ha hstat
  exact hnone ⟨a, ha, hstat⟩

/-- A file goes on holding a text if only that text is ever written to it. -/
theorem fileAt?_of_agree (h : Trail d as d') {place : Place} {content : String}
    (hfile : d.fileAt? place = some content.toUTF8)
    (hagree : ∀ a ∈ as, d'.stat a.path = .ok place → a.content = content) :
    d'.fileAt? place = some content.toUTF8 := by
  induction h with
  | done d => exact hfile
  | makeDir hmake rest ih =>
      refine ih ?_ hagree
      rw [Disk.fileAt?_of_makeDir hmake, hfile]
  | write hwrite rest ih =>
      obtain ⟨target, hstat, hwritten, hothers⟩ := Disk.exists_place_of_write hwrite
      refine ih ?_ fun a ha => hagree a (List.mem_cons_of_mem _ ha)
      by_cases htarget : place = target
      · subst htarget
        rw [hwritten, hagree _ List.mem_cons_self (rest.grows.stat hstat)]
      · rw [hothers place htarget, hfile]

/-- If artifacts that share a file share their content, all of them can be read back. -/
theorem readText (h : Trail d as d')
    (hagree : ∀ a ∈ as, ∀ b ∈ as, ∀ place, d'.stat a.path = .ok place → d'.stat b.path = .ok place →
      a.content = b.content) :
    ∀ a ∈ as, d'.readText a.path = .ok a.content := by
  induction h with
  | done d => simp
  | makeDir hmake rest ih => exact ih hagree
  | write hwrite rest ih =>
      rename_i a as
      obtain ⟨place, hstat, hwritten, -⟩ := Disk.exists_place_of_write hwrite
      have hend := rest.grows.stat hstat
      rw [List.forall_mem_cons]
      constructor
      · -- Later artifacts may land on the same file; they leave it as it is.
        refine Disk.readText_of_fileAt? hend (rest.fileAt?_of_agree hwritten ?_)
        intro b hb hplace
        exact hagree b (List.mem_cons_of_mem _ hb) a List.mem_cons_self place hplace hend
      · refine ih ?_
        intro b hb c hc
        exact hagree b (List.mem_cons_of_mem _ hb) c (List.mem_cons_of_mem _ hc)

end Trail

/-! ## Deliveries -/

namespace Artifact

/-- The delivery of an artifact that nothing goes wrong with. -/
def receipt (dryRun : Bool) (a : Artifact) : Delivery :=
  if dryRun then a.preview else .written a.kind a.path a.content.utf8ByteSize

end Artifact

theorem makeDirs_trail (p : Path) (d : Disk) : Trail d [] (d.makeDirs p).2 := by
  have hstep : ∀ {d₁ d₂ : Disk} {p : Path}, d₁.makeDir p = .ok d₂ → Trail d [] d₁ →
      Trail d [] d₂ := by
    intro d₁ d₂ p hmake htrail
    exact htrail.append (.makeDir hmake (.done d₂))
  exact Disk.makeDirs_induction hstep p (.done d)

end VulkanWire
