import Mathlib.Data.List.Nodup
import Mathlib.Data.List.Perm.Subperm
import VulkanWire.Registry

/-!
# Handles inside structs

A struct holds a handle directly or inside the structs among its members, and
those inside others in turn. Structs may hold each other, through pointers or in
a malformed schema, so the search for a handle is cut off: it follows members
through seventeen structs. A path to a handle need not come twice through names
of the same definition, so that in a registry of at most seventeen structs the
cut is never felt.

## Main definitions

* `Registry.HasMember` — a struct has a member of a type.
* `Registry.HandlePath` — a way through members down to a handle.
* `Registry.HandleSearch` — what the search for handles says of a name.

## Main results

* `Registry.hasHandlesWithin_iff` — what a search of some depth finds.
* `Registry.HandlePath.exists_nodup` — a way that comes through no definition
  twice.
* `Registry.handle_search_exact` — which names hold handles.
-/

namespace VulkanWire

namespace Registry

variable {r : Registry} {n : Nat} {name other typeName : String} {d : StructDef}
  {way rest : List String}

/-! ## Members and handles -/

/-- A name stands for a struct that has a member of a type. -/
def HasMember (r : Registry) (name typeName : String) : Prop :=
  ∃ d, r.definition? (r.resolveAlias name) = some (.struct d) ∧
    ∃ m ∈ d.members, m.typeName = typeName

/-- A name stands for a handle type. -/
def NamesHandle (r : Registry) (name : String) : Prop :=
  ∃ d, r.definition? (r.resolveAlias name) = some (.type d) ∧ d.kind = .handle

theorem struct?_eq_some_iff :
    r.struct? name = some d ↔ r.definition? (r.resolveAlias name) = some (.struct d) := by
  unfold struct? resolved?
  constructor
  · intro h
    split at h
    · rename_i d' hd'
      rwa [← Option.some.inj h]
    · cases h
  · intro h
    rw [h]

theorem isHandle_iff : r.isHandle name = true ↔ r.NamesHandle name := by
  unfold isHandle resolved?
  constructor
  · intro h
    split at h
    · rename_i d hd
      exact ⟨d, hd, of_decide_eq_true h⟩
    · cases h
  · rintro ⟨d, hd, hkind⟩
    rw [hd]
    exact decide_eq_true hkind

/-- A search that may go one struct deeper looks at all members of the first struct. -/
theorem hasHandlesWithin_succ_iff :
    r.hasHandlesWithin (n + 1) name = true ↔ ∃ typeName, r.HasMember name typeName ∧
      (r.NamesHandle typeName ∨ r.hasHandlesWithin n typeName = true) := by
  rw [hasHandlesWithin]
  constructor
  · intro h
    split at h
    · rename_i d hd
      obtain ⟨m, hm, hholds⟩ := List.any_eq_true.mp h
      rw [Bool.or_eq_true, isHandle_iff] at hholds
      exact ⟨m.typeName, ⟨d, struct?_eq_some_iff.mp hd, m, hm, rfl⟩, hholds⟩
    · cases h
  · rintro ⟨_, ⟨d, hd, m, hm, rfl⟩, hholds⟩
    rw [struct?_eq_some_iff.mpr hd]
    refine List.any_eq_true.mpr ⟨m, hm, ?_⟩
    rwa [Bool.or_eq_true, isHandle_iff]

/-! ## Ways to a handle -/

/-- Each name stands for a struct with a member of the type that is named next, and the last one for
a struct with a handle among its members. -/
inductive HandlePath (r : Registry) : List String → Prop
  | direct {name handle : String} (hmember : r.HasMember name handle)
      (hhandle : r.NamesHandle handle) : HandlePath r [name]
  | nested {name inner : String} {rest : List String} (hmember : r.HasMember name inner)
      (hrest : HandlePath r (inner :: rest)) : HandlePath r (name :: inner :: rest)

/-- A search finds the handles that so many names, or fewer, lead to. -/
theorem hasHandlesWithin_iff (n : Nat) (name : String) :
    r.hasHandlesWithin n name = true ↔ ∃ rest, rest.length < n ∧ r.HandlePath (name :: rest) := by
  induction n generalizing name with
  | zero => simp [hasHandlesWithin]
  | succ n ih =>
      rw [hasHandlesWithin_succ_iff]
      constructor
      · rintro ⟨typeName, hmember, hhandle | hdeeper⟩
        · exact ⟨[], Nat.zero_lt_succ n, .direct hmember hhandle⟩
        · obtain ⟨rest, hlength, hpath⟩ := (ih typeName).mp hdeeper
          exact ⟨typeName :: rest, Nat.succ_lt_succ hlength, .nested hmember hpath⟩
      · rintro ⟨rest, hlength, hpath⟩
        cases hpath with
        | @direct _ handle hmember hhandle => exact ⟨handle, hmember, .inl hhandle⟩
        | @nested _ inner rest hmember hrest =>
            refine ⟨inner, hmember, .inr ((ih inner).mpr ⟨rest, ?_, hrest⟩)⟩
            exact Nat.lt_of_succ_lt_succ hlength

/-- A way may begin with any name of the same definition. -/
theorem HandlePath.congr (h : r.HandlePath (other :: rest))
    (hsame : r.resolveAlias other = r.resolveAlias name) : r.HandlePath (name :: rest) := by
  have hmember : r.HasMember other = r.HasMember name := by
    funext typeName
    rw [HasMember, HasMember, hsame]
  cases h with
  | direct hfirst hhandle => exact .direct (hmember ▸ hfirst) hhandle
  | nested hfirst hrest => exact .nested (hmember ▸ hfirst) hrest

/-- A way may begin with any of its names. -/
theorem HandlePath.of_suffix (h : r.HandlePath way) (hsuffix : name :: rest <:+ way) :
    r.HandlePath (name :: rest) := by
  induction h with
  | direct hmember hhandle =>
      rcases List.suffix_cons_iff.mp hsuffix with hsame | hlater
      · rw [hsame]
        exact .direct hmember hhandle
      · cases List.suffix_nil.mp hlater
  | nested hmember hrest ih =>
      rcases List.suffix_cons_iff.mp hsuffix with hsame | hlater
      · rw [hsame]
        exact .nested hmember hrest
      · exact ih hlater

/-- Where there is a way to a handle, one comes through no definition twice. -/
theorem HandlePath.exists_nodup (h : r.HandlePath way) :
    ∃ shorter, r.HandlePath shorter ∧ shorter.head? = way.head? ∧
      (shorter.map r.resolveAlias).Nodup := by
  induction h with
  | direct hmember hhandle => exact ⟨_, .direct hmember hhandle, rfl, List.nodup_singleton _⟩
  | @nested name inner rest hmember _ ih =>
      obtain ⟨shorter, hpath, hhead, hnodup⟩ := ih
      by_cases hseen : r.resolveAlias name ∈ shorter.map r.resolveAlias
      -- the way goes on from where it comes to the definition of the first name again
      · obtain ⟨other, hother, hsame⟩ := List.mem_map.mp hseen
        obtain ⟨before, after, rfl⟩ := List.append_of_mem hother
        have hagain : other :: after <:+ before ++ other :: after := List.suffix_append _ _
        refine ⟨name :: after, (hpath.of_suffix hagain).congr hsame, rfl, ?_⟩
        rw [List.map_cons, ← hsame, ← List.map_cons]
        exact (hagain.sublist.map _).nodup hnodup
      · obtain ⟨rest, rfl⟩ := List.head?_eq_some_iff.mp hhead
        refine ⟨name :: inner :: rest, .nested hmember hpath, rfl, ?_⟩
        exact List.nodup_cons.mpr ⟨hseen, hnodup⟩

/-! ## Counting structs -/

/-- The names under which a registry has the definition of a struct. -/
def structNames (r : Registry) : List String :=
  r.names.filter fun name => (r.definition? name).any (·.category = .struct)

theorem mem_structNames (h : r.definition? name = some (.struct d)) : name ∈ r.structNames := by
  have hlisted : name ∈ r.names := by
    obtain ⟨record, hrecord, -⟩ := Option.map_eq_some_iff.mp h
    rw [names, ← Ledger.find?_isSome_iff]
    exact Option.isSome_of_eq_some hrecord
  rw [structNames, List.mem_filter, h]
  exact ⟨hlisted, rfl⟩

theorem HasMember.mem_structNames (h : r.HasMember name typeName) :
    r.resolveAlias name ∈ r.structNames := by
  obtain ⟨d, hd, -⟩ := h
  exact Registry.mem_structNames hd

/-- Each name on a way stands for a struct of the registry. -/
theorem HandlePath.mem_structNames (h : r.HandlePath way) :
    ∀ name ∈ way, r.resolveAlias name ∈ r.structNames := by
  induction h with
  | direct hmember _ =>
      intro name hname
      rw [List.mem_singleton.mp hname]
      exact hmember.mem_structNames
  | nested hmember _ ih =>
      intro name hname
      rcases List.mem_cons.mp hname with rfl | hlater
      · exact hmember.mem_structNames
      · exact ih name hlater

/-- Where there is a way to a handle, there is one through no more names than there are structs. -/
theorem HandlePath.exists_short (h : r.HandlePath (name :: rest)) :
    ∃ rest', rest'.length < r.structNames.length ∧ r.HandlePath (name :: rest') := by
  obtain ⟨shorter, hpath, hhead, hnodup⟩ := h.exists_nodup
  obtain ⟨rest', rfl⟩ := List.head?_eq_some_iff.mp hhead
  refine ⟨rest', ?_, hpath⟩
  have hsubset : (name :: rest').map r.resolveAlias ⊆ r.structNames := by
    intro resolved hresolved
    obtain ⟨passed, hpassed, rfl⟩ := List.mem_map.mp hresolved
    exact hpath.mem_structNames passed hpassed
  have hlength := (hnodup.subperm hsubset).length_le
  rwa [List.length_map] at hlength

/-! ## What a search finds -/

/-- What the search for handles says of a name. -/
structure HandleSearch (r : Registry) (name : String) : Prop where
  /-- A handle is found that the name leads to through at most sixteen further names. -/
  iff : r.structHasHandles name = true ↔ ∃ rest, rest.length ≤ 16 ∧ r.HandlePath (name :: rest)
  /-- Among at most seventeen structs, every handle is found that the name leads to. -/
  complete : r.structNames.length ≤ 17 →
    (r.structHasHandles name = true ↔ ∃ rest, r.HandlePath (name :: rest))
  /-- No handle is found that the name does not lead to. -/
  sound : (∀ rest, ¬ r.HandlePath (name :: rest)) → r.structHasHandles name = false

/-- The names that hold handles are those that lead to one through at most sixteen further names. -/
theorem handle_search_exact (r : Registry) (name : String) : r.HandleSearch name := by
  have hiff : r.structHasHandles name = true ↔
      ∃ rest, rest.length ≤ 16 ∧ r.HandlePath (name :: rest) := by
    rw [structHasHandles, hasHandlesWithin_iff]
    exact exists_congr fun rest => and_congr_left' Nat.lt_succ_iff
  refine ⟨hiff, ?_, ?_⟩
  · intro hfew
    rw [hiff]
    constructor
    · rintro ⟨rest, -, hpath⟩
      exact ⟨rest, hpath⟩
    · rintro ⟨rest, hpath⟩
      obtain ⟨rest', hshort, hpath'⟩ := hpath.exists_short
      exact ⟨rest', by omega, hpath'⟩
  · intro hnone
    rw [← Bool.not_eq_true, hiff]
    rintro ⟨rest, -, hpath⟩
    exact hnone rest hpath

/-- Two structs that hold each other, one of them under an alias, and the other one a queue. -/
def entangled : List Element :=
  [.type { name := "VkQueue", kind := .handle },
    .struct { name := "VkSubmit", members := [{ name := "batch", typeName := "VkBatchKHR" }] },
    .struct { name := "VkBatchKHR", aliasOf := some "VkBatch" },
    .struct { name := "VkBatch",
              members := [{ name := "next", typeName := "VkSubmit" },
                          { name := "queue", typeName := "VkQueue" }] }]

example : (entangled.foldl record {}).structHasHandles "VkSubmit" = true := by decide

end Registry

end VulkanWire
