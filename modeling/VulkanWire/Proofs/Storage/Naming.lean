import VulkanWire.Proofs.Storage.Growth

/-!
# The names of entries

A path that ends in a name can only lead to an entry of that name. So two paths
that lead to the same place end in the same name, whatever directories they go
through on the way.

## Main results

* `Path.lastName?_join` — a path made of a directory and a name ends in it.
* `Disk.lastName?_eq_of_stat` — paths to the same place end in the same name.
-/

namespace VulkanWire

namespace Path

/-- The last piece of a path that is not empty. -/
def lastName? (p : Path) : Option String :=
  ((segments p.text.toList).filter (· ≠ [])).getLast?.map String.ofList

/-- A piece that paths can end in and that names an entry. -/
structure IsName (text : String) : Prop where
  slashless : '/' ∉ text.toList
  nonempty : text ≠ ""
  here : text ≠ "."
  up : text ≠ ".."

instance (text : String) : Decidable (IsName text) :=
  decidable_of_iff ('/' ∉ text.toList ∧ text ≠ "" ∧ text ≠ "." ∧ text ≠ "..")
    ⟨fun ⟨h₁, h₂, h₃, h₄⟩ => ⟨h₁, h₂, h₃, h₄⟩, fun ⟨h₁, h₂, h₃, h₄⟩ => ⟨h₁, h₂, h₃, h₄⟩⟩

/-! ## Pieces of joined paths -/

theorem segments_append_slash (xs ys : List Char) :
    segments (xs ++ '/' :: ys) = segments xs ++ segments ys := by
  induction xs with
  | nil => simp [segments]
  | cons c xs ih =>
      by_cases hc : c = '/'
      · simp [segments, hc, ih]
      · cases hxs : segments xs with
        | nil => exact absurd hxs (segments_ne_nil xs)
        | cons piece pieces => simp [segments, hc, ih, hxs]

theorem segments_of_slashless {cs : List Char} (h : '/' ∉ cs) : segments cs = [cs] := by
  induction cs with
  | nil => rfl
  | cons c cs ih =>
      rw [List.mem_cons, not_or] at h
      simp [segments, Ne.symm h.1, ih h.2]

/-- What stands before a slash does not matter for the last piece, if something follows. -/
theorem getLast?_segments {xs : List Char} {name : String} (h : IsName name) :
    ((segments (xs ++ '/' :: name.toList)).filter (· ≠ [])).getLast? = some name.toList := by
  have hne : name.toList ≠ [] := by
    intro hnil
    exact h.nonempty (String.toList_eq_nil_iff.mp hnil)
  rw [segments_append_slash, segments_of_slashless h.slashless, List.filter_append]
  simp [hne]

/-- A path made of a directory and a name ends in the name. -/
theorem lastName?_join (dir : Path) {name : String} (h : IsName name) :
    (dir.join ⟨name⟩).lastName? = some name := by
  have hrelative : ¬ (Path.mk name).isAbsolute = true := by
    intro habsolute
    have hhead : name.toList.head? = some '/' := by simpa [isAbsolute] using habsolute
    exact h.slashless (List.mem_of_head? hhead)
  have hspell : (some name.toList).map String.ofList = some name := by simp
  rw [join, if_neg hrelative]
  by_cases hempty : dir.text = ""
  · have hname : name.toList ≠ [] := by
      intro hnil
      exact h.nonempty (String.toList_eq_nil_iff.mp hnil)
    rw [if_pos (Or.inl hempty), hempty, lastName?, String.empty_append,
      segments_of_slashless h.slashless, List.filter_cons_of_pos (by simpa using hname)]
    exact hspell
  · by_cases hslash : dir.text.toList.getLast? = some '/'
    · obtain ⟨xs, hxs⟩ := List.getLast?_eq_some_iff.mp hslash
      rw [if_pos (Or.inr hslash), lastName?, String.toList_append, hxs, List.append_assoc,
        List.singleton_append, getLast?_segments h, hspell]
    · have hnot : ¬ (dir.text = "" ∨ dir.text.toList.getLast? = some '/') := by
        rintro (hcase | hcase)
        · exact hempty hcase
        · exact hslash hcase
      have htext : (dir.text ++ "/" ++ name).toList = dir.text.toList ++ '/' :: name.toList := by
        simp [String.toList_append]
      rw [if_neg hnot, lastName?, htext, getLast?_segments h, hspell]

end Path

namespace Disk

variable {d : Disk}

/-! ## The name a path ends in -/

theorem pieces_getLast? {p : Path} {r : Route} (h : d.route p = .ok r) :
    r.pieces.getLast? = p.lastName? := by
  simp only [route] at h
  split at h
  · cases h
  · split at h
    · cases h
    · split at h
      · cases h
      · injection h with h
        subst h
        rw [Path.lastName?, List.getLast?_map]

/-- A path that ends in a name leads to an entry of that name. -/
theorem getLast?_of_stat {p : Path} {place : Place} {name : String} (hs : d.stat p = .ok place)
    (hname : p.lastName? = some name) (hhere : name ≠ ".") (hup : name ≠ "..") :
    place.getLast? = some name := by
  obtain ⟨r, hr, hf, -⟩ := stat_eq_ok_iff.mp hs
  have hlast := pieces_getLast? hr
  rw [hname] at hlast
  obtain ⟨earlier, hpieces⟩ := List.getLast?_eq_some_iff.mp hlast
  rw [hpieces] at hf
  obtain ⟨lead, -, hone⟩ := follow_append_eq_ok_iff.mp hf
  obtain ⟨next, hleads, hdone⟩ := follow_cons_eq_ok_iff.mp hone
  injection hdone with hdone
  subst hdone
  cases hleads with
  | here hdir => exact absurd rfl hhere
  | up hdir => exact absurd rfl hup
  | entry => exact List.getLast?_concat

/-- Paths that end in names and lead to the same place end in the same name. -/
theorem lastName?_eq_of_stat {p q : Path} {place : Place} {name name' : String}
    (hp : d.stat p = .ok place) (hq : d.stat q = .ok place) (hname : p.lastName? = some name)
    (hname' : q.lastName? = some name') (h : Path.IsName name) (h' : Path.IsName name') :
    name = name' := by
  have hlast := getLast?_of_stat hp hname h.here h.up
  have hlast' := getLast?_of_stat hq hname' h'.here h'.up
  rw [hlast] at hlast'
  injection hlast'

end Disk

end VulkanWire
