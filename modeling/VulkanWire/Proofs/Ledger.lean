import Mathlib.Data.List.Induction
import Mathlib.Data.List.Nodup
import Mathlib.Logic.Function.Basic
import VulkanWire.Ledger

/-!
# Ledgers after insertions

A ledger can be seen as a map, which finds the last value of a name, and as a
list of names in order of first entry. An insertion updates the map, and adds
its name to the list if the map finds nothing under it so far. After many of
them, the list has the names of all entries without repetitions.

## Main results

* `Ledger.find?_insert_eq_update`, `Ledger.names_insert_eq_ite` — the map and the
  list through one insertion.
* `Ledger.names_insertAll`, `Ledger.find?_insertAll` — the list and the map after
  any insertions.
-/

namespace VulkanWire

theorem nodup_eraseDups (cs : List String) : cs.eraseDups.Nodup := by
  induction cs using List.reverseRecOn with
  | nil => exact List.nodup_nil
  | append_singleton cs c ih =>
      rw [eraseDups_append_singleton]
      split
      · exact ih
      · rename_i hnew
        exact ih.append (List.nodup_singleton c) (List.disjoint_singleton.mpr hnew)

namespace Ledger

universe u

variable {α : Type u}

section Insertion

variable (l : Ledger α) (name : String) (value : α)

/-- An insertion updates the map. -/
theorem find?_insert_eq_update :
    (l.insert name value).find? = Function.update l.find? name (some value) := by
  funext other
  rw [find?_insert, Function.update_apply]
  exact if_congr eq_comm rfl rfl

/-- An insertion adds a name to the list if the map finds nothing under it. -/
theorem names_insert_eq_ite :
    (l.insert name value).names =
      if (l.find? name).isSome then l.names else l.names ++ [name] := by
  rw [names_insert]
  exact if_congr (find?_isSome_iff l name).symm rfl rfl

end Insertion

/-! ## Many insertions -/

/-- Enters values under names, one after the other. -/
def insertAll (l : Ledger α) (entries : List (String × α)) : Ledger α :=
  entries.foldl (fun l e => l.insert e.1 e.2) l

theorem insertAll_append (l : Ledger α) (es fs : List (String × α)) :
    l.insertAll (es ++ fs) = (l.insertAll es).insertAll fs :=
  List.foldl_append

/-- Names are listed in the order of their first entry. -/
theorem names_insertAll (entries : List (String × α)) :
    ((∅ : Ledger α).insertAll entries).names = (entries.map (·.1)).eraseDups := by
  induction entries using List.reverseRecOn with
  | nil => rfl
  | append_singleton entries e ih =>
      have hone : ((∅ : Ledger α).insertAll (entries ++ [e])).names =
          if e.1 ∈ (entries.map (·.1)).eraseDups then (entries.map (·.1)).eraseDups
          else (entries.map (·.1)).eraseDups ++ [e.1] := by
        rw [insertAll_append, ← ih]
        exact names_insert _ e.1 e.2
      rw [hone, List.map_append]
      exact (eraseDups_append_singleton _ _).symm

/-- The last entry of a name is found. -/
theorem find?_insertAll (entries : List (String × α)) (name : String) :
    ((∅ : Ledger α).insertAll entries).find? name =
      (entries.filter (·.1 = name)).getLast?.map (·.2) := by
  induction entries using List.reverseRecOn with
  | nil => rfl
  | append_singleton entries e ih =>
      have hone : ((∅ : Ledger α).insertAll (entries ++ [e])).find? name =
          if e.1 = name then some e.2 else ((∅ : Ledger α).insertAll entries).find? name := by
        rw [insertAll_append]
        exact find?_insert _ e.1 name e.2
      rw [hone, List.filter_append]
      by_cases h : e.1 = name
      · simp [h]
      · simp [h, ih]

/-- Where no name repeats, every entry is found. -/
theorem find?_insertAll_eq_some {entries : List (String × α)}
    (hdistinct : (entries.map (·.1)).Nodup) {name : String} {value : α} :
    ((∅ : Ledger α).insertAll entries).find? name = some value ↔ (name, value) ∈ entries := by
  rw [find?_insertAll, Option.map_eq_some_iff]
  constructor
  · rintro ⟨e, he, rfl⟩
    have hmem := List.mem_filter.mp (List.mem_of_getLast? he)
    have hname : e.1 = name := by simpa using hmem.2
    rw [← hname]
    exact hmem.1
  · intro hvalue
    have hfilter : (name, value) ∈ entries.filter (·.1 = name) :=
      List.mem_filter.mpr ⟨hvalue, by simp⟩
    have hlast := List.getLast?_eq_getLast_of_ne_nil (List.ne_nil_of_mem hfilter)
    obtain ⟨e, he⟩ : ∃ e, (entries.filter (·.1 = name)).getLast? = some e := ⟨_, hlast⟩
    have hmem := List.mem_filter.mp (List.mem_of_getLast? he)
    have hsame : e = (name, value) :=
      List.inj_on_of_nodup_map hdistinct hmem.1 hvalue (by simpa using hmem.2)
    exact ⟨e, he, by rw [hsame]⟩

end Ledger

end VulkanWire
