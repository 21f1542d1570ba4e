import VulkanWire.Proofs.Output.Attempt

/-!
# What lands of a unit

A real delivery of a unit succeeds exactly if the disk makes all directories and
takes all artifacts. Otherwise there is a first refusal. If a directory is
refused, no file has changed; if an artifact is, those before it have landed and
no other file has changed. An artifact that has landed can be read back unless a
later one has a path that leads to the same file. Paths that differ can do so,
and it takes no links: a dot in front of a name is enough.

## Main definitions

* `Disk.Holds` — what a disk holds of the artifacts written to it.
* `Blocked`, `CutOff` — the two ways in which a unit fails.

## Main results

* `Artifact.exists_mem_parents` — a unit makes the directories of all its artifacts.
* `unit_lands_as_prefix` — what a delivery answers and leaves.
-/

namespace VulkanWire

/-! ## The directories of a unit -/

namespace Artifact

theorem eq_or_mem_of_mem_insertParent {p q : Path} {ps : List Path} (h : q ∈ insertParent p ps) :
    q = p ∨ q ∈ ps := by
  induction ps with
  | nil => exact .inl (List.mem_singleton.mp h)
  | cons r ps ih =>
      rw [insertParent] at h
      split at h
      · rcases List.mem_cons.mp h with rfl | hmem
        · exact .inl rfl
        · exact .inr (List.mem_cons_of_mem r hmem)
      · split at h
        · exact List.mem_cons.mp h
        · rcases List.mem_cons.mp h with rfl | hmem
          · exact .inr List.mem_cons_self
          · exact (ih hmem).imp_right (List.mem_cons_of_mem r)

/-- A directory that is entered, and every one entered before it, is listed in some spelling. -/
theorem exists_mem_insertParent (p : Path) (ps : List Path) :
    ∀ q ∈ p :: ps, ∃ r ∈ insertParent p ps, r.components = q.components := by
  induction ps with
  | nil =>
      intro q hq
      exact ⟨q, hq, rfl⟩
  | cons r ps ih =>
      rw [List.forall_mem_cons] at ih
      rw [insertParent]
      split
      · rename_i hsame
        refine List.forall_mem_cons.mpr ⟨⟨p, List.mem_cons_self, rfl⟩, List.forall_mem_cons.mpr ?_⟩
        refine ⟨⟨p, List.mem_cons_self, hsame⟩, ?_⟩
        intro q hq
        exact ⟨q, List.mem_cons_of_mem p hq, rfl⟩
      · split
        · intro q hq
          exact ⟨q, hq, rfl⟩
        · obtain ⟨p', hp', hspelled⟩ := ih.1
          refine List.forall_mem_cons.mpr
            ⟨⟨p', List.mem_cons_of_mem r hp', hspelled⟩, List.forall_mem_cons.mpr ?_⟩
          refine ⟨⟨r, List.mem_cons_self, rfl⟩, ?_⟩
          intro q hq
          obtain ⟨q', hq', hspelled'⟩ := ih.2 q hq
          exact ⟨q', List.mem_cons_of_mem r hq', hspelled'⟩

variable {as : List Artifact} {a : Artifact} {p : Path}

/-- A unit makes only directories that its artifacts need. -/
theorem exists_of_mem_parents (h : p ∈ parents as) : ∃ a ∈ as, a.parent? = some p := by
  have hfold : ∀ (ps acc : List Path),
      p ∈ ps.foldl (fun acc q => insertParent q acc) acc → p ∈ ps ∨ p ∈ acc := by
    intro ps
    induction ps with
    | nil => exact fun acc h => .inr h
    | cons q ps ih =>
        intro acc h
        rcases ih _ h with hlater | hhere
        · exact .inl (List.mem_cons_of_mem q hlater)
        · refine (eq_or_mem_of_mem_insertParent hhere).imp_left ?_
          rintro rfl
          exact List.mem_cons_self
  rcases hfold _ [] h with hneeded | hnone
  · exact List.mem_filterMap.mp hneeded
  · cases hnone

/-- A unit makes the directory of every artifact, in some spelling. -/
theorem exists_mem_parents (ha : a ∈ as) (hp : a.parent? = some p) :
    ∃ q ∈ parents as, q.components = p.components := by
  have hfold : ∀ (ps acc : List Path), ∀ q ∈ ps ++ acc,
      ∃ r ∈ ps.foldl (fun acc q => insertParent q acc) acc, r.components = q.components := by
    intro ps
    induction ps with
    | nil => exact fun acc q hq => ⟨q, hq, rfl⟩
    | cons p ps ih =>
        intro acc q hq
        have hplace : q ∈ ps ∨ q ∈ p :: acc := by
          rwa [List.cons_append, List.mem_cons, List.mem_append, or_left_comm,
            ← List.mem_cons] at hq
        rcases hplace with hlater | hhere
        · exact ih _ q (List.mem_append_left _ hlater)
        · obtain ⟨r, hr, hspelled⟩ := exists_mem_insertParent p acc q hhere
          obtain ⟨r', hr', hspelled'⟩ := ih _ r (List.mem_append_right ps hr)
          exact ⟨r', hr', hspelled'.trans hspelled⟩
  exact hfold _ [] p (List.mem_append_left _ (List.mem_filterMap.mpr ⟨a, ha, hp⟩))

end Artifact

/-! ## Steps that the disk refuses -/

section Refusing

variable {α : Type} {step : Disk → α → Disk → Prop}
  (hsingle : ∀ d x d₁ d₂, step d x d₁ → step d x d₂ → d₁ = d₂)
include hsingle

theorem Steps.unique {xs : List α} {d d₁ d₂ : Disk} (h : Steps step xs d d₁)
    (h' : Steps step xs d d₂) : d₁ = d₂ := by
  induction h with
  | done d =>
      cases h'
      rfl
  | next hfirst rest ih =>
      cases h' with
      | next hfirst' rest' =>
          cases hsingle _ _ _ _ hfirst hfirst'
          exact ih rest'

/-- Steps cannot be taken past one that is refused. -/
theorem Steps.not_of_refused {before after : List α} {x : α} {d d₁ d₂ : Disk}
    (h : Steps step before d d₁) (hrefused : ∀ d', ¬ step d₁ x d') :
    ¬ Steps step (before ++ x :: after) d d₂ := by
  intro hall
  induction h with
  | done d =>
      cases hall with
      | next hfirst rest => exact hrefused _ hfirst
  | next hfirst rest ih =>
      cases hall with
      | next hfirst' rest' =>
          cases hsingle _ _ _ _ hfirst hfirst'
          exact ih hrefused rest'

end Refusing

theorem Disk.Makes.unique (d : Disk) (p : Path) (d₁ d₂ : Disk) (h : d.Makes p d₁)
    (h' : d.Makes p d₂) : d₁ = d₂ := congrArg Prod.snd (h.symm.trans h')

theorem Disk.Writes.unique (d : Disk) (a : Artifact) (d₁ d₂ : Disk) (h : d.Writes a d₁)
    (h' : d.Writes a d₂) : d₁ = d₂ := Except.ok.inj (h.symm.trans h')

/-! ## What a disk holds -/

/-- Every artifact that was written can be read back, unless the path of one written after it leads
to the same file. -/
def Disk.Holds (d : Disk) (written : List Artifact) : Prop :=
  ∀ before a after, written = before ++ a :: after →
    (∀ b ∈ after, ∀ place, d.stat a.path = .ok place → d.stat b.path ≠ .ok place) →
    d.readText a.path = .ok a.content

theorem Trail.holds {as : List Artifact} {d d' : Disk} (h : Trail d as d') : d'.Holds as := by
  induction h with
  | done d =>
      intro before a after hsplit
      simp at hsplit
  | makeDir hmake rest ih => exact ih
  | @write d d₁ d' a as hwrite rest ih =>
      intro before b after hsplit hlast
      cases before with
      | nil =>
          -- The artifact has just been written, and nothing after it leads to its file.
          injection hsplit with hhere hafter
          subst hhere hafter
          obtain ⟨place, hstat, hwritten, -⟩ := Disk.exists_place_of_write hwrite
          have hend := rest.grows.stat hstat
          refine Disk.readText_of_fileAt? hend ?_
          rw [rest.fileAt?_of_ne fun c hc => hlast c hc place hend, hwritten]
      | cons c before =>
          injection hsplit with hhere hrest
          exact ih before b after hrest hlast

/-! ## How a unit fails -/

/-- A directory is refused: those before it are made, nothing lands, and no file changes. -/
structure Blocked (as : List Artifact) (d : Disk) (p : PartialDelivery) (d' : Disk) : Prop where
  step : p.fault.step = .createDirectory
  needed : ∃ a ∈ as, a.parent? = some p.fault.path
  refused : ∃ before after d₁, Artifact.parents as = before ++ p.fault.path :: after ∧
    Steps Disk.Makes before d d₁ ∧ d₁.makeDirs p.fault.path = (.error p.fault.cause, d')
  landed : p.landed = []
  unchanged : ∀ place, d'.fileAt? place = d.fileAt? place

/-- An artifact is refused: those before it have landed, and no file changes but theirs. -/
structure CutOff (as : List Artifact) (d : Disk) (p : PartialDelivery) (d' : Disk)
    (written : List Artifact) : Prop where
  step : p.fault.step = .writeFile
  refused : ∃ a rest d₁, as = written ++ a :: rest ∧ p.fault.path = a.path ∧
    Steps Disk.Makes (Artifact.parents as) d d₁ ∧ Steps Disk.Writes written d₁ d' ∧
    d'.write a.path a.content.toUTF8 = .error p.fault.cause
  landed : p.landed = written.map fun a => .written a.kind a.path a.content.utf8ByteSize
  held : d'.Holds written
  unchanged : ∀ place, (∀ a ∈ written, d'.stat a.path ≠ .ok place) →
    d'.fileAt? place = d.fileAt? place

section Failing

variable {as : List Artifact} {d d₁ d' : Disk} {cause : FileFault}

theorem not_makes_of_refused {before after : List Path} {p : Path}
    (split : Artifact.parents as = before ++ p :: after) (made : Steps Disk.Makes before d d₁)
    (refused : d₁.makeDirs p = (.error cause, d')) :
    ¬ ∃ d₂, Steps Disk.Makes (Artifact.parents as) d d₂ := by
  rintro ⟨d₂, hmade⟩
  rw [split] at hmade
  refine Steps.not_of_refused Disk.Makes.unique made ?_ hmade
  intro d₃ hmade
  rw [Disk.Makes, refused] at hmade
  cases hmade

theorem blocked_of_refused {before after : List Path} {p : Path}
    (split : Artifact.parents as = before ++ p :: after) (made : Steps Disk.Makes before d d₁)
    (refused : d₁.makeDirs p = (.error cause, d')) :
    Blocked as d ⟨[], ⟨.createDirectory, p, cause⟩⟩ d' where
  step := rfl
  needed := Artifact.exists_of_mem_parents (by rw [split]; simp)
  refused := ⟨before, after, d₁, split, made, refused⟩
  landed := rfl
  unchanged := by
    have hlast := makeDirs_trail p d₁
    rw [refused] at hlast
    intro place
    refine (made.trail_makes.append hlast).fileAt?_of_ne ?_
    intro a ha
    cases ha

theorem not_writes_of_refused {before after : List Artifact} {a : Artifact}
    (wrote : Steps Disk.Writes before d₁ d')
    (refused : d'.write a.path a.content.toUTF8 = .error cause) (d₂ : Disk) :
    ¬ Steps Disk.Writes (before ++ a :: after) d₁ d₂ := by
  refine Steps.not_of_refused Disk.Writes.unique wrote ?_
  intro d₃ hwrote
  rw [Disk.Writes, refused] at hwrote
  cases hwrote

theorem cutOff_of_refused {before after : List Artifact} {a : Artifact}
    (made : Steps Disk.Makes (Artifact.parents as) d d₁)
    (split : as = before ++ a :: after) (wrote : Steps Disk.Writes before d₁ d')
    (refused : d'.write a.path a.content.toUTF8 = .error cause) :
    CutOff as d ⟨before.map (Artifact.receipt false), ⟨.writeFile, a.path, cause⟩⟩ d' before where
  step := rfl
  refused := ⟨a, after, d₁, split, rfl, made, wrote, refused⟩
  landed := rfl
  held := wrote.trail_writes.holds
  unchanged _ hplace := (made.trail_makes.append wrote.trail_writes).fileAt?_of_ne hplace

end Failing

/-! ## A unit as a whole -/

/-- A unit is written as a prefix. A dry run shows every artifact and touches nothing. A real
delivery succeeds exactly if all directories can be made and then all artifacts written, with one
answer for each. It is blocked by a directory exactly if they cannot all be made, and cut off at the
first artifact that cannot be written otherwise. -/
theorem unit_lands_as_prefix (as : List Artifact) (d : Disk) :
    (deliverUnit true as : OnDisk _).run d = (.ok (as.map Artifact.preview), d) ∧
    (∀ a ∈ as, ∀ p ∈ a.parent?, ∃ q ∈ Artifact.parents as, q.components = p.components) ∧
    ∃ result d', (deliverUnit false as : OnDisk _).run d = (result, d') ∧
      ((∃ results, result = .ok results) ↔
        ∃ d₁ d₂, Steps Disk.Makes (Artifact.parents as) d d₁ ∧ Steps Disk.Writes as d₁ d₂) ∧
      ((∃ p, result = .error p ∧ Blocked as d p d') ↔
        ¬ ∃ d₁, Steps Disk.Makes (Artifact.parents as) d d₁) ∧
      match result with
      | .ok results =>
        results = as.map (fun a => .written a.kind a.path a.content.utf8ByteSize) ∧ d'.Holds as
      | .error p => Blocked as d p d' ∨ ∃ written, CutOff as d p d' written := by
  refine ⟨rfl, fun a ha p hp => Artifact.exists_mem_parents ha hp, ?_⟩
  obtain ⟨result, d', hrun, hattempt⟩ := deliverUnit_run as d
  refine ⟨result, d', hrun, ?_⟩
  cases hattempt with
  | complete made wrote =>
      rename_i d₁
      refine ⟨⟨fun _ => ⟨d₁, d', made, wrote⟩, fun _ => ⟨_, rfl⟩⟩,
        ⟨?_, fun hunmade => absurd ⟨d₁, made⟩ hunmade⟩, rfl, wrote.trail_writes.holds⟩
      rintro ⟨p, hp, -⟩
      cases hp
  | blocked split made refused =>
      have hunmade := not_makes_of_refused split made refused
      have hblocked := blocked_of_refused split made refused
      refine ⟨⟨?_, ?_⟩, ⟨fun _ => hunmade, fun _ => ⟨_, rfl, hblocked⟩⟩, .inl hblocked⟩
      · rintro ⟨results, hresults⟩
        cases hresults
      · rintro ⟨d₂, -, hmade, -⟩
        exact absurd ⟨d₂, hmade⟩ hunmade
  | cut made split wrote refused =>
      rename_i d₁ written rest a cause
      refine ⟨⟨?_, ?_⟩, ⟨?_, fun hunmade => absurd ⟨d₁, made⟩ hunmade⟩,
        .inr ⟨written, cutOff_of_refused made split wrote refused⟩⟩
      · rintro ⟨results, hresults⟩
        cases hresults
      · rintro ⟨d₂, d₃, hmade, hwrote⟩
        cases Steps.unique Disk.Makes.unique made hmade
        rw [split] at hwrote
        exact absurd hwrote (not_writes_of_refused wrote refused d₃)
      · rintro ⟨p, hp, hblocked⟩
        injection hp with hp
        subst hp
        cases hblocked.step

/-- Paths that differ in all but where they lead do not keep artifacts apart: on an empty disk, the
header has landed when the directory is refused, and its file holds the text of the
implementation. -/
theorem landed_header_overwritten :
    ∃ (as : List Artifact) (d' : Disk),
      as = [⟨.header, "x.h", "1"⟩, ⟨.implementation, "./x.h", "2"⟩, ⟨.implementation, ".", "3"⟩] ∧
      (deliverUnit false as : OnDisk _).run ⟨[], []⟩ =
        (.error ⟨[.written .header "x.h" 1, .written .implementation "./x.h" 1],
          ⟨.writeFile, ".", .isDirectory⟩⟩, d') ∧
      (as.map (·.path.components)).Nodup ∧ d'.readText "x.h" = .ok "2" := by
  refine ⟨_, ⟨[(["x.h"], .file "2".toUTF8)], []⟩, rfl, ?_, ?_, ?_⟩
  · rfl
  · decide
  · rfl

end VulkanWire
