import VulkanWire.Proofs.Storage.Growth

/-!
# What writing changes

A file that has been written is found by its path and holds what was written,
and no other place has changed its content. Creating directories changes the
content of no file at all. Both only add to a disk.

## Main results

* `write_eq_ok`, `makeDir_eq_ok` — all that a successful operation did.
* `exists_place_of_write` — where a file just written is, and what it holds.
* `readText_of_fileAt?` — reading is looking up where the path leads.
* `makeDirs_induction` — what single directories preserve, `makeDirs` does.
-/

namespace VulkanWire

namespace Disk

/-- The content of the file that stands at a place. -/
def fileAt? (d : Disk) (place : Place) : Option ByteArray :=
  match d.node? place with
  | some (.file content) => some content
  | _ => none

variable {d d' : Disk}

/-! ## Entries to be -/

/-- A directory that a route ends in, with the name of the entry it asks for there. -/
structure Ends (d : Disk) (r : Route) (lead : Place) (last : String) : Prop where
  pieces : ∃ earlier, r.pieces = earlier ++ [last] ∧ d.follow r.start earlier = .ok lead
  directory : d.isDirectoryAt lead = true
  here : last ≠ "."
  up : last ≠ ".."

theorem slot_eq_ok {blocked : FileFault} {r : Route} {place : Place}
    (h : d.slot blocked r = .ok place) : ∃ lead last, d.Ends r lead last ∧ place = lead ++ [last] := by
  unfold slot at h
  split at h
  · cases h
  · rename_i last reversed hpieces
    cases hf : d.follow r.start reversed.reverse with
    | error e =>
        simp only [bind, Except.bind, hf] at h
        cases h
    | ok lead =>
        simp only [bind, Except.bind, hf] at h
        split at h
        · cases h
        · rename_i hdir
          split at h
          · cases h
          · rename_i hdots
            injection h with h
            have hsplit : r.pieces = reversed.reverse ++ [last] := by
              rw [← List.reverse_cons, ← hpieces, List.reverse_reverse]
            have hlead : d.isDirectoryAt lead = true := by simpa using hdir
            exact ⟨lead, last,
              ⟨⟨_, hsplit, hf⟩, hlead, fun hd => hdots (Or.inl hd), fun hd => hdots (Or.inr hd)⟩,
              h.symm⟩

/-- A directory in which an entry can be created: it is still there and the name is not too long. -/
structure Admits (d : Disk) (lead : Place) (last : String) : Prop where
  kept : (d.node? lead).isSome = true
  short : last.utf8ByteSize ≤ maxName

theorem admits_of_refusal? {lead : Place} {last : String}
    (h : d.refusal? (lead ++ [last]) = none) : d.Admits lead last := by
  unfold refusal? at h
  split at h
  · cases h
  · rename_i hnone
    split at h
    · cases h
    · rename_i hlong
      rw [List.dropLast_concat] at hnone
      rw [List.getLast?_concat] at hlong
      refine ⟨?_, ?_⟩
      · simpa [Option.isSome_iff_ne_none] using hnone
      · exact Nat.le_of_not_lt hlong

/-- Once something stands at the entry, the whole route leads to it. -/
theorem Ends.follow {r : Route} {lead : Place} {last : String} (he : d.Ends r lead last)
    (ha : d.Admits lead last) (hgrows : Grows d d')
    (hentry : (d'.node? (lead ++ [last])).isSome = true) :
    d'.follow r.start r.pieces = .ok (lead ++ [last]) := by
  obtain ⟨earlier, hpieces, hlead⟩ := he.pieces
  have hleads : d'.Leads lead last (lead ++ [last]) :=
    .entry (hgrows.isDirectoryAt he.directory) he.here he.up (hgrows.present _ ha.kept) ha.short
      hentry
  rw [hpieces, follow_append_eq_ok_iff]
  refine ⟨lead, hgrows.follow hlead, ?_⟩
  rw [hleads.follow_cons]
  rfl

/-! ## Single operations -/

/-- All that a successful write did. -/
theorem write_eq_ok {p : Path} {content : ByteArray} (h : d.write p content = .ok d') :
    ∃ r lead last, d.route p = .ok r ∧ d.Ends r lead last ∧ r.slashed = false ∧
      d.Admits lead last ∧ d.isDirectoryAt (lead ++ [last]) = false ∧
      d' = d.put (lead ++ [last]) (.file content) := by
  unfold write at h
  cases hr : d.route p with
  | error e =>
      rw [hr] at h
      cases h
  | ok r =>
      cases hs : d.slot .isDirectory r with
      | error e =>
          simp only [bind, Except.bind, hr, hs] at h
          cases h
      | ok place =>
          simp only [bind, Except.bind, hr, hs] at h
          obtain ⟨lead, last, hends, rfl⟩ := slot_eq_ok hs
          split at h
          · cases h
          · rename_i hslashed
            split at h
            · cases h
            · rename_i hrefusal
              have hadmits := admits_of_refusal? (by simpa [Option.eq_none_iff_forall_ne_some]
                using hrefusal)
              split at h
              · cases h
              · rename_i hdir
                injection h with h
                exact ⟨r, lead, last, rfl, hends, by simpa using hslashed, hadmits,
                  by simpa using hdir, h.symm⟩

/-- All that a successful creation of a directory did. -/
theorem makeDir_eq_ok {p : Path} (h : d.makeDir p = .ok d') :
    ∃ place, place ≠ [] ∧ d.node? place = none ∧ d' = d.put place .directory := by
  unfold makeDir at h
  cases hr : d.route p with
  | error e =>
      rw [hr] at h
      cases h
  | ok r =>
      cases hs : d.slot .occupied r with
      | error e =>
          simp only [bind, Except.bind, hr, hs] at h
          cases h
      | ok place =>
          simp only [bind, Except.bind, hr, hs] at h
          obtain ⟨lead, last, -, rfl⟩ := slot_eq_ok hs
          split at h
          · cases h
          · split at h
            · cases h
            · rename_i hfree
              injection h with h
              exact ⟨lead ++ [last], by simp, by simpa using hfree, h.symm⟩

/-- Writing a file only adds to a disk. -/
theorem grows_of_write {p : Path} {content : ByteArray} (h : d.write p content = .ok d') :
    Grows d d' := by
  obtain ⟨r, lead, last, -, -, -, -, hdir, rfl⟩ := write_eq_ok h
  refine grows_put (by simp) ?_ _
  intro hnode
  simp [isDirectoryAt, hnode] at hdir

/-- Creating a directory only adds to a disk. -/
theorem grows_of_makeDir {p : Path} (h : d.makeDir p = .ok d') : Grows d d' := by
  obtain ⟨place, hplace, hfree, rfl⟩ := makeDir_eq_ok h
  refine grows_put hplace ?_ _
  rw [hfree]
  intro hnode
  cases hnode

/-- Creating a directory changes the content of no file. -/
theorem fileAt?_of_makeDir {p : Path} (h : d.makeDir p = .ok d') (q : Place) :
    d'.fileAt? q = d.fileAt? q := by
  obtain ⟨place, hplace, hfree, rfl⟩ := makeDir_eq_ok h
  unfold fileAt?
  rw [node?_put hplace]
  by_cases hq : q = place
  · rw [if_pos hq, hq, hfree]
  · rw [if_neg hq]

/-- The place of a file just written: its path leads there, it holds what was written, and all
other places hold what they held. -/
theorem exists_place_of_write {p : Path} {content : ByteArray} (h : d.write p content = .ok d') :
    ∃ place, d'.stat p = .ok place ∧ d'.fileAt? place = some content ∧
      ∀ q, q ≠ place → d'.fileAt? q = d.fileAt? q := by
  have hgrows := grows_of_write h
  obtain ⟨r, lead, last, hr, hends, hslashed, hadmits, -, rfl⟩ := write_eq_ok h
  have hplace : lead ++ [last] ≠ [] := by simp
  have hnode := node?_put hplace d (.file content)
  have hhere : (d.put (lead ++ [last]) (.file content)).node? (lead ++ [last]) =
      some (.file content) := by
    rw [hnode, if_pos rfl]
  refine ⟨lead ++ [last], ?_, ?_, ?_⟩
  · have hfollow := hends.follow hadmits hgrows (by rw [hhere]; rfl)
    refine stat_eq_ok_iff.mpr ⟨r, ?_, hfollow, ?_⟩
    · rw [hgrows.route, hr]
    · rw [hslashed]
      intro hfalse
      cases hfalse
  · unfold fileAt?
    rw [hhere]
  · intro q hq
    unfold fileAt?
    rw [hnode, if_neg hq]

/-! ## Reading -/

theorem node?_of_fileAt? {place : Place} {content : ByteArray}
    (h : d.fileAt? place = some content) : d.node? place = some (.file content) := by
  unfold fileAt? at h
  split at h
  · rename_i hnode
    injection h with h
    rw [hnode, h]
  · cases h

/-- Bytes are decoded to the text that is encoded by them. -/
theorem fromUTF8?_eq_some_iff {bytes : ByteArray} {text : String} :
    String.fromUTF8? bytes = some text ↔ bytes = text.toUTF8 := by
  rw [String.fromUTF8?, String.toUTF8_eq_toByteArray]
  constructor
  · intro h
    split at h
    · injection h with h
      exact congrArg String.toByteArray h
    · cases h
  · rintro rfl
    rw [dif_pos text.isValidUTF8]
    rfl

theorem readBytes_of_fileAt? {p : Path} {place : Place} {content : ByteArray}
    (hs : d.stat p = .ok place) (hf : d.fileAt? place = some content) :
    d.readBytes p = .ok content := by
  simp only [readBytes, hs, bind, Except.bind, node?_of_fileAt? hf]

/-- A place without a file is read as a directory. -/
theorem readBytes_of_no_file {p : Path} {place : Place} (hs : d.stat p = .ok place)
    (hf : d.fileAt? place = none) : d.readBytes p = .error .isDirectory := by
  simp only [readBytes, hs, bind, Except.bind]
  unfold fileAt? at hf
  cases hnode : d.node? place with
  | none => rfl
  | some node =>
      cases node with
      | file content =>
          rw [hnode] at hf
          cases hf
      | directory => rfl

/-- Reading a path is decoding the file it leads to. -/
theorem readText_of_fileAt? {p : Path} {place : Place} {text : String} (hs : d.stat p = .ok place)
    (hf : d.fileAt? place = some text.toUTF8) : d.readText p = .ok text := by
  simp only [readText, readBytes_of_fileAt? hs hf, bind, Except.bind,
    fromUTF8?_eq_some_iff.mpr rfl]

/-! ## Directories with those above them -/

/-- What creating single directories preserves, creating all that are missing preserves. -/
theorem makeDirs_induction {P : Disk → Prop} (hstep : ∀ {d d' : Disk} {p : Path},
    d.makeDir p = .ok d' → P d → P d') (p : Path) (hd : P d) : P (d.makeDirs p).2 := by
  -- The recursion climbs towards the root, so the disk is generalized along with the path.
  have hgo : ∀ fuel p d, P d → P (makeDirs.go fuel p d).2 := by
    intro fuel
    induction fuel with
    | zero => exact fun _ _ h => h
    | succ fuel ih =>
        intro p d hd
        rw [makeDirs.go]
        split
        · rename_i hmake
          exact hstep hmake hd
        · split
          · exact hd
          · rename_i above _
            have habove := ih above d hd
            split
            · rename_i hfailed
              rwa [hfailed] at habove
            · rename_i hmade
              rw [hmade] at habove
              split
              · rename_i hmake
                exact hstep hmake habove
              · split
                · exact habove
                · exact habove
        · split
          · exact hd
          · exact hd
  exact hgo _ p d hd

end Disk

end VulkanWire
