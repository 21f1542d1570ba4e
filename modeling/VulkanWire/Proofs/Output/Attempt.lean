import VulkanWire.Proofs.Output.Trail

/-!
# Attempts to deliver a unit

A real delivery makes the directories its artifacts need and then writes the
artifacts, up to the first step that the disk refuses. `Attempt` says what that
comes to on a given disk: a complete unit, a unit blocked by a directory, or one
that is cut off at an artifact. What has landed is an initial part of the unit in
every case, and the trail on the disk is a trail of just that part.

## Main definitions

* `Steps` — steps that a disk takes one after the other.
* `Attempt` — a unit, its result and what it leaves on the disk.

## Main results

* `deliverUnit_run`, `deliverFragment_run` — deliveries are attempts.
* `Attempt.exists_trail` — the trail of an attempt.
-/

namespace VulkanWire

/-! ## Steps on a disk -/

/-- Steps that a disk takes one after the other, none of them refused. -/
inductive Steps {α : Type} (step : Disk → α → Disk → Prop) : List α → Disk → Disk → Prop where
  | done (d : Disk) : Steps step [] d d
  | next {d d₁ d' : Disk} {x : α} {xs : List α} (h : step d x d₁) (rest : Steps step xs d₁ d') :
      Steps step (x :: xs) d d'

/-- A disk makes a directory and all directories above it. -/
def Disk.Makes (d : Disk) (p : Path) (d' : Disk) : Prop := d.makeDirs p = (.ok (), d')

/-- A disk puts the content of an artifact into its file. -/
def Disk.Writes (d : Disk) (a : Artifact) (d' : Disk) : Prop :=
  d.write a.path a.content.toUTF8 = .ok d'

namespace Steps

variable {d d' : Disk}

theorem trail_makes {ps : List Path} (h : Steps Disk.Makes ps d d') : Trail d [] d' := by
  induction h with
  | done d => exact .done d
  | @next d d₁ d' p ps hmake _ ih =>
      have hmade : d.makeDirs p = (.ok (), d₁) := hmake
      have hfirst := makeDirs_trail p d
      rw [hmade] at hfirst
      exact hfirst.append ih

theorem trail_writes {as : List Artifact} (h : Steps Disk.Writes as d d') : Trail d as d' := by
  induction h with
  | done d => exact .done d
  | next hwrite _ ih => exact .write hwrite ih

end Steps

/-! ## Attempts -/

/-- The attempt to deliver artifacts as a unit on a disk: the result, and the disk it leaves. -/
inductive Attempt (as : List Artifact) (d : Disk) :
    Except PartialDelivery (List Delivery) → Disk → Prop where
  /-- All directories are made, and then all artifacts written. -/
  | complete {d₁ d' : Disk} (made : Steps Disk.Makes (Artifact.parents as) d d₁)
      (wrote : Steps Disk.Writes as d₁ d') :
      Attempt as d (.ok (as.map (Artifact.receipt false))) d'
  /-- A directory is refused, and nothing is written. -/
  | blocked {d₁ d' : Disk} {before after : List Path} {p : Path} {cause : FileFault}
      (split : Artifact.parents as = before ++ p :: after) (made : Steps Disk.Makes before d d₁)
      (refused : d₁.makeDirs p = (.error cause, d')) :
      Attempt as d (.error ⟨[], ⟨.createDirectory, p, cause⟩⟩) d'
  /-- An artifact is refused, and those after it are not tried. -/
  | cut {d₁ d' : Disk} {landed rest : List Artifact} {a : Artifact} {cause : FileFault}
      (made : Steps Disk.Makes (Artifact.parents as) d d₁) (split : as = landed ++ a :: rest)
      (wrote : Steps Disk.Writes landed d₁ d')
      (refused : d'.write a.path a.content.toUTF8 = .error cause) :
      Attempt as d (.error ⟨landed.map (Artifact.receipt false), ⟨.writeFile, a.path, cause⟩⟩) d'

/-- An attempt leaves a trail of an initial part of its artifacts, which is all of them if it
succeeds and what it answers for if it fails. -/
theorem Attempt.exists_trail {as : List Artifact} {d d' : Disk}
    {result : Except PartialDelivery (List Delivery)} (h : Attempt as d result d') :
    ∃ landed, Trail d landed d' ∧ landed <+: as ∧
      match result with
      | .ok ds => ds = as.map (Artifact.receipt false) ∧ landed = as
      | .error p => p.landed = landed.map (Artifact.receipt false) := by
  cases h with
  | complete made wrote =>
      exact ⟨as, made.trail_makes.append wrote.trail_writes, List.prefix_rfl, rfl, rfl⟩
  | blocked split made refused =>
      rename_i d₁ before after p cause
      have hlast := makeDirs_trail p d₁
      rw [refused] at hlast
      exact ⟨[], made.trail_makes.append hlast, List.nil_prefix, rfl⟩
  | cut made split wrote refused =>
      rename_i d₁ landed rest a cause
      refine ⟨landed, made.trail_makes.append wrote.trail_writes, ?_, rfl⟩
      rw [split]
      exact List.prefix_append _ _

/-! ## Deliveries -/

/-- Directories are created one after the other, all of them or up to the first that is refused. -/
theorem createDirectories_run (ps : List Path) (d : Disk) :
    (∃ d', (createDirectories ps : OnDisk _).run d = (.ok (), d') ∧ Steps Disk.Makes ps d d') ∨
      ∃ before p after cause d₁ d', ps = before ++ p :: after ∧ Steps Disk.Makes before d d₁ ∧
        d₁.makeDirs p = (.error cause, d') ∧
        (createDirectories ps : OnDisk _).run d = (.error ⟨.createDirectory, p, cause⟩, d') := by
  induction ps generalizing d with
  | nil => exact .inl ⟨d, rfl, .done d⟩
  | cons p ps ih =>
      have hmake : (Storage.makeDirs p : OnDisk _).run d = d.makeDirs p := rfl
      cases hp : d.makeDirs p with
      | mk result d₁ =>
          rw [hp] at hmake
          cases result with
          | error cause =>
              refine .inr ⟨[], p, ps, cause, d, d₁, rfl, .done d, hp, ?_⟩
              rw [createDirectories, OnDisk.run_bind hmake]
              rfl
          | ok _ =>
              have hrun : (createDirectories (p :: ps) : OnDisk _).run d =
                  (createDirectories ps : OnDisk _).run d₁ := by
                rw [createDirectories, OnDisk.run_bind hmake]
              rw [hrun]
              rcases ih d₁ with ⟨d', hrest, hmade⟩ | ⟨before, q, after, cause, d₂, d', rfl, hmade, hrest⟩
              · exact .inl ⟨d', hrest, .next hp hmade⟩
              · exact .inr ⟨p :: before, q, after, cause, d₂, d', rfl, .next hp hmade, hrest⟩

theorem writeText_run (p : Path) (text : String) (d : Disk) :
    (Storage.writeText p text : OnDisk _).run d =
      match d.write p text.toUTF8 with
      | .ok d' => (.ok (), d')
      | .error e => (.error e, d) := by
  have hprogram : (Storage.writeText p text : OnDisk _).run d =
      (match d.write p text.toUTF8 with
        | .ok d => (do set d; return .ok ())
        | .error e => return .error e : OnDisk (Except FileFault Unit)).run d := rfl
  rw [hprogram]
  cases d.write p text.toUTF8 with
  | ok d' => rfl
  | error e => rfl

/-- An artifact is written and answered for, or nothing has happened. -/
theorem persist_run (a : Artifact) (d : Disk) :
    (persist a : OnDisk _).run d =
      match d.write a.path a.content.toUTF8 with
      | .ok d' => (.ok (a.receipt false), d')
      | .error cause => (.error ⟨.writeFile, a.path, cause⟩, d) := by
  have hwriting := writeText_run a.path a.content d
  cases hwrite : d.write a.path a.content.toUTF8 with
  | ok d' =>
      rw [hwrite] at hwriting
      rw [persist, OnDisk.run_bind hwriting]
      rfl
  | error cause =>
      rw [hwrite] at hwriting
      rw [persist, OnDisk.run_bind hwriting]
      rfl

/-- Artifacts are written one after the other, all of them or up to the first that is refused. -/
theorem persistAll_run (as : List Artifact) (d : Disk) :
    (∃ d', (persistAll as : OnDisk _).run d = (.ok (as.map (Artifact.receipt false)), d') ∧
      Steps Disk.Writes as d d') ∨
      ∃ landed a rest cause d', as = landed ++ a :: rest ∧ Steps Disk.Writes landed d d' ∧
        d'.write a.path a.content.toUTF8 = .error cause ∧
        (persistAll as : OnDisk _).run d =
          (.error ⟨landed.map (Artifact.receipt false), ⟨.writeFile, a.path, cause⟩⟩, d') := by
  induction as generalizing d with
  | nil => exact .inl ⟨d, rfl, .done d⟩
  | cons a as ih =>
      have hfirst := persist_run a d
      cases hwrite : d.write a.path a.content.toUTF8 with
      | error cause =>
          rw [hwrite] at hfirst
          refine .inr ⟨[], a, as, cause, d, rfl, .done d, hwrite, ?_⟩
          rw [persistAll, OnDisk.run_bind hfirst]
          rfl
      | ok d₁ =>
          rw [hwrite] at hfirst
          rcases ih d₁ with ⟨d', hrest, hwrote⟩ | ⟨landed, b, rest, cause, d', rfl, hwrote, hrefused, hrest⟩
          · refine .inl ⟨d', ?_, .next hwrite hwrote⟩
            rw [persistAll, OnDisk.run_bind hfirst, OnDisk.run_bind hrest]
            rfl
          · refine .inr ⟨a :: landed, b, rest, cause, d', rfl, .next hwrite hwrote, hrefused, ?_⟩
            rw [persistAll, OnDisk.run_bind hfirst, OnDisk.run_bind hrest]
            rfl

/-- The delivery of a unit is an attempt at it. -/
theorem deliverUnit_run (as : List Artifact) (d : Disk) :
    ∃ result d', (deliverUnit false as : OnDisk _).run d = (result, d') ∧ Attempt as d result d' := by
  rw [deliverUnit, if_neg Bool.false_ne_true]
  rcases createDirectories_run (Artifact.parents as) d with
    ⟨d₁, hcreate, hmade⟩ | ⟨before, p, after, cause, d₁, d', hsplit, hmade, hrefused, hcreate⟩
  · rcases persistAll_run as d₁ with
      ⟨d', hrun, hwrote⟩ | ⟨landed, a, rest, cause, d', hsplit, hwrote, hrefused, hrun⟩
    · exact ⟨_, d', (OnDisk.run_bind hcreate).trans hrun, .complete hmade hwrote⟩
    · exact ⟨_, d', (OnDisk.run_bind hcreate).trans hrun, .cut hmade hsplit hwrote hrefused⟩
  · exact ⟨_, d', OnDisk.run_bind hcreate, .blocked hsplit hmade hrefused⟩

/-- What the attempt at a single artifact means for the artifact. -/
def Artifact.resultOf (a : Artifact) :
    Except PartialDelivery (List Delivery) → Except DeliveryFault Delivery
  | .ok _ => .ok (a.receipt false)
  | .error p => .error p.fault

/-- The delivery of a single artifact is an attempt at a unit of one. -/
theorem deliverFragment_run (a : Artifact) (d : Disk) :
    ∃ result d', (deliverFragment false a : OnDisk _).run d = (a.resultOf result, d') ∧
      Attempt [a] d result d' := by
  rw [deliverFragment, if_neg Bool.false_ne_true]
  rcases createDirectories_run (Artifact.parents [a]) d with
    ⟨d₁, hcreate, hmade⟩ | ⟨before, p, after, cause, d₁, d', hsplit, hmade, hrefused, hcreate⟩
  · have hpersist := persist_run a d₁
    cases hwrite : d₁.write a.path a.content.toUTF8 with
    | ok d' =>
        rw [hwrite] at hpersist
        exact ⟨.ok [a.receipt false], d', (OnDisk.run_bind hcreate).trans hpersist,
          .complete hmade (.next hwrite (.done d'))⟩
    | error cause =>
        rw [hwrite] at hpersist
        exact ⟨.error ⟨[], ⟨.writeFile, a.path, cause⟩⟩, d₁,
          (OnDisk.run_bind hcreate).trans hpersist,
          .cut hmade (List.nil_append _).symm (.done d₁) hwrite⟩
  · exact ⟨_, d', OnDisk.run_bind hcreate, .blocked hsplit hmade hrefused⟩

end VulkanWire
