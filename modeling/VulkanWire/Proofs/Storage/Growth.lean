import VulkanWire.Storage.Disk

/-!
# What a disk keeps while files are written

Creating directories and writing files only ever adds: a directory stays one,
and what leads somewhere goes on leading to the same place. `Disk.Grows` says
so of two disks, and a path that has been followed on the first is followed to
the same place on the second. A place moves its content only when a file is
written to it.

## Main results

* `node?_put` — what stands where once a node has been put.
* `follow_cons_eq_ok_iff`, `stat_eq_ok_iff` — when a path leads somewhere, and
  where to.
* `Grows.stat` — a path leads to the same place on a disk that has grown.
-/

namespace VulkanWire.Disk

/-! ## Putting nodes -/

theorem lookup_put_go (place : Place) (n : Node) (nodes : List (Place × Node)) (q : Place) :
    (put.go place n nodes).lookup q = if q = place then some n else nodes.lookup q := by
  induction nodes with
  | nil =>
      by_cases hq : q = place
      · simp [put.go, hq]
      · simp [put.go, hq]
  | cons entry rest ih =>
      obtain ⟨p, m⟩ := entry
      by_cases hp : p = place
      · subst hp
        by_cases hq : q = p
        · simp [put.go, hq]
        · have hne : (q == p) = false := by simpa using hq
          simp [put.go, List.lookup_cons, hne, hq]
      · by_cases hq : q = p
        · subst hq
          simp [put.go, hp]
        · have hne : (q == p) = false := by simpa using hq
          simp [put.go, hp, List.lookup_cons, hne, ih]

/-- A node put at a place stands there, and everything else stands where it stood. -/
theorem node?_put {place : Place} (hplace : place ≠ []) (d : Disk) (n : Node) (q : Place) :
    (d.put place n).node? q = if q = place then some n else d.node? q := by
  by_cases hq : q = []
  · subst hq
    simp [node?, hplace.symm]
  · simp only [node?, put, hq, if_false]
    exact lookup_put_go place n d.nodes q

/-! ## Where paths lead -/

/-- One piece of a path that leads from a directory to a place. -/
inductive Leads (d : Disk) (place : Place) : String → Place → Prop where
  | here (hdir : d.isDirectoryAt place = true) : Leads d place "." place
  | up (hdir : d.isDirectoryAt place = true) : Leads d place ".." place.dropLast
  | entry {piece : String} (hdir : d.isDirectoryAt place = true) (hhere : piece ≠ ".")
      (hup : piece ≠ "..") (hkept : (d.node? place).isSome = true)
      (hshort : piece.utf8ByteSize ≤ maxName)
      (hentry : (d.node? (place ++ [piece])).isSome = true) : Leads d place piece (place ++ [piece])

section Following

variable {d : Disk} {place target : Place} {piece : String} {rest : List String}

theorem Leads.follow_cons {next : Place} (h : d.Leads place piece next) :
    d.follow place (piece :: rest) = d.follow next rest := by
  cases h with
  | here hdir => simp [follow, hdir]
  | up hdir => simp [follow, hdir]
  | entry hdir hhere hup hkept hshort hentry =>
      have hlong : ¬ piece.utf8ByteSize > maxName := by omega
      have hnone : ¬ (d.node? place).isNone = true := by
        simpa [Option.isSome_iff_ne_none] using hkept
      rw [follow, if_pos hdir, if_neg hhere, if_neg hup, if_neg hnone, if_neg hlong, if_pos hentry]

/-- A walk gets past a piece exactly if the piece leads on and the walk does from there. -/
theorem follow_cons_eq_ok_iff :
    d.follow place (piece :: rest) = .ok target ↔
      ∃ next, d.Leads place piece next ∧ d.follow next rest = .ok target := by
  constructor
  · intro h
    rw [follow] at h
    split at h
    · rename_i hdir
      split at h
      · rename_i hhere
        subst hhere
        exact ⟨place, .here hdir, h⟩
      · rename_i hhere
        split at h
        · rename_i hup
          subst hup
          exact ⟨place.dropLast, .up hdir, h⟩
        · rename_i hup
          split at h
          · cases h
          · rename_i hnone
            split at h
            · cases h
            · rename_i hlong
              split at h
              · rename_i hentry
                have hkept : (d.node? place).isSome = true := by
                  simpa [Option.isSome_iff_ne_none] using hnone
                exact ⟨_, .entry hdir hhere hup hkept (by omega) hentry, h⟩
              · cases h
    · cases h
  · rintro ⟨next, hleads, h⟩
    rw [hleads.follow_cons, h]

theorem follow_append_eq_ok_iff {pieces : List String} :
    d.follow place (pieces ++ rest) = .ok target ↔
      ∃ next, d.follow place pieces = .ok next ∧ d.follow next rest = .ok target := by
  induction pieces generalizing place with
  | nil =>
      constructor
      · exact fun h => ⟨place, rfl, h⟩
      · rintro ⟨next, hnext, h⟩
        injection hnext with hnext
        rw [List.nil_append, hnext, h]
  | cons piece pieces ih =>
      rw [List.cons_append, follow_cons_eq_ok_iff]
      constructor
      · rintro ⟨first, hleads, h⟩
        obtain ⟨next, hnext, h⟩ := ih.mp h
        exact ⟨next, follow_cons_eq_ok_iff.mpr ⟨first, hleads, hnext⟩, h⟩
      · rintro ⟨next, hnext, h⟩
        obtain ⟨first, hleads, hnext⟩ := follow_cons_eq_ok_iff.mp hnext
        exact ⟨first, hleads, ih.mpr ⟨next, hnext, h⟩⟩

/-- A path leads to a place exactly if its pieces do and a slash at its end finds a directory. -/
theorem stat_eq_ok_iff {p : Path} :
    d.stat p = .ok place ↔
      ∃ r, d.route p = .ok r ∧ d.follow r.start r.pieces = .ok place ∧
        (r.slashed = true → d.isDirectoryAt place = true) := by
  unfold stat
  constructor
  · intro h
    cases hr : d.route p with
    | error e =>
        rw [hr] at h
        cases h
    | ok r =>
        cases hf : d.follow r.start r.pieces with
        | error e =>
            simp only [bind, Except.bind, hr, hf] at h
            cases h
        | ok target =>
            simp only [bind, Except.bind, hr, hf] at h
            split at h
            · cases h
            · rename_i hslash
              injection h with h
              subst h
              refine ⟨r, rfl, hf, fun hslashed => ?_⟩
              exact Decidable.byContradiction fun hnot => hslash ⟨hslashed, hnot⟩
  · rintro ⟨r, hr, hf, hslash⟩
    have hfine : ¬ (r.slashed = true ∧ ¬ d.isDirectoryAt place = true) := by
      rintro ⟨hslashed, hnot⟩
      exact hnot (hslash hslashed)
    simp only [bind, Except.bind, hr, hf, if_neg hfine]

end Following

/-! ## Growth -/

/-- A disk on which everything that stood on another still stands. -/
structure Grows (d d' : Disk) : Prop where
  working : d'.workingPlace = d.workingPlace
  directory : ∀ place, d.node? place = some .directory → d'.node? place = some .directory
  present : ∀ place, (d.node? place).isSome → (d'.node? place).isSome

theorem Grows.refl (d : Disk) : Grows d d := ⟨rfl, fun _ h => h, fun _ h => h⟩

theorem Grows.trans {d d' d'' : Disk} (h : Grows d d') (h' : Grows d' d'') : Grows d d'' where
  working := h'.working.trans h.working
  directory place hp := h'.directory place (h.directory place hp)
  present place hp := h'.present place (h.present place hp)

/-- A disk grows by any node put where no directory stands. -/
theorem grows_put {d : Disk} {place : Place} (hplace : place ≠ [])
    (hfree : d.node? place ≠ some .directory) (n : Node) : Grows d (d.put place n) where
  working := rfl
  directory q hq := by
    have hne : q ≠ place := by
      rintro rfl
      exact hfree hq
    rw [node?_put hplace, if_neg hne, hq]
  present q hq := by
    rw [node?_put hplace]
    by_cases h : q = place
    · simp [h]
    · simp [h, hq]

section Growing

variable {d d' : Disk} (h : Grows d d')
include h

theorem Grows.isDirectoryAt {place : Place} (hp : d.isDirectoryAt place = true) :
    d'.isDirectoryAt place = true := by
  simp only [Disk.isDirectoryAt, decide_eq_true_eq] at hp ⊢
  rcases hp with hdir | hworking
  · exact Or.inl (h.directory place hdir)
  · exact Or.inr (by rw [h.working, hworking])

theorem Grows.route (p : Path) : d'.route p = d.route p := by
  simp only [Disk.route, h.working]

theorem Grows.leads {place next : Place} {piece : String} (hl : d.Leads place piece next) :
    d'.Leads place piece next := by
  cases hl with
  | here hdir => exact .here (h.isDirectoryAt hdir)
  | up hdir => exact .up (h.isDirectoryAt hdir)
  | entry hdir hhere hup hkept hshort hentry =>
      exact .entry (h.isDirectoryAt hdir) hhere hup (h.present _ hkept) hshort (h.present _ hentry)

/-- Pieces that lead to a place go on leading to it. -/
theorem Grows.follow {place target : Place} {pieces : List String}
    (hf : d.follow place pieces = .ok target) : d'.follow place pieces = .ok target := by
  induction pieces generalizing place with
  | nil => exact hf
  | cons piece rest ih =>
      obtain ⟨next, hleads, hrest⟩ := follow_cons_eq_ok_iff.mp hf
      exact follow_cons_eq_ok_iff.mpr ⟨next, h.leads hleads, ih hrest⟩

/-- A path leads to the same place on a disk that has grown. -/
theorem Grows.stat {p : Path} {place : Place} (hs : d.stat p = .ok place) :
    d'.stat p = .ok place := by
  obtain ⟨r, hr, hf, hslash⟩ := stat_eq_ok_iff.mp hs
  refine stat_eq_ok_iff.mpr ⟨r, ?_, h.follow hf, fun hslashed => h.isDirectoryAt (hslash hslashed)⟩
  rw [h.route, hr]

end Growing

end VulkanWire.Disk
