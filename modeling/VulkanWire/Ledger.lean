/-!
# Ledgers: name-keyed maps that remember insertion order

A `Ledger α` maps names to values and lists the names in the order in which
they were first entered. Entering a name again replaces its value and keeps
its place. The registry, the gate and the module table are built on it,
because their answers list names in that order.

## Main results

* `find?_insert` — a look-up after an insertion sees the new value at the
  inserted name and the old ledger everywhere else.
* `names_insert` — an insertion appends a name exactly when it is new.
* `nodup_names_insert` — no name is ever listed twice.
* `find?_isSome_iff` — the listed names are exactly those a look-up finds.
-/

namespace VulkanWire

universe u

/-- A map from names to values that lists its names in order of first entry. -/
structure Ledger (α : Type u) where
  /-- The entries in order of first entry. -/
  entries : List (String × α)
deriving DecidableEq, Repr

namespace Ledger

variable {α : Type u}

def empty : Ledger α := ⟨[]⟩

instance : EmptyCollection (Ledger α) := ⟨empty⟩

instance : Inhabited (Ledger α) := ⟨empty⟩

/-- The names in order of first entry. -/
def names (l : Ledger α) : List String := l.entries.map (·.1)

def size (l : Ledger α) : Nat := l.entries.length

/-- The value entered last under a name. -/
def find? (l : Ledger α) (name : String) : Option α :=
  go l.entries
where
  go : List (String × α) → Option α
    | [] => none
    | (n, v) :: rest => if n = name then some v else go rest

def contains (l : Ledger α) (name : String) : Bool := (l.find? name).isSome

/-- Enters a value under a name: a known name keeps its place, a new one goes to the end. -/
def insert (l : Ledger α) (name : String) (value : α) : Ledger α :=
  ⟨go l.entries⟩
where
  go : List (String × α) → List (String × α)
    | [] => [(name, value)]
    | (n, v) :: rest => if n = name then (n, value) :: rest else (n, v) :: go rest

/-! ## Look-up through insertion -/

@[simp] theorem find?_empty (name : String) : (empty : Ledger α).find? name = none := rfl

@[simp] theorem names_empty : (empty : Ledger α).names = [] := rfl

private theorem find?_go_insert_go (name other : String) (value : α) (es : List (String × α)) :
    find?.go other (insert.go name value es) =
      if name = other then some value else find?.go other es := by
  induction es with
  | nil => simp [insert.go, find?.go]
  | cons e es ih =>
    obtain ⟨n, v⟩ := e
    by_cases hn : n = name
    · subst hn
      by_cases ho : n = other <;> simp [insert.go, find?.go, ho]
    · by_cases ho : n = other
      · subst ho
        simp [insert.go, find?.go, hn, Ne.symm hn]
      · simp [insert.go, find?.go, hn, ho, ih]

/-- A look-up after an insertion sees the new value at the inserted name only. -/
theorem find?_insert (l : Ledger α) (name other : String) (value : α) :
    (l.insert name value).find? other = if name = other then some value else l.find? other :=
  find?_go_insert_go name other value l.entries

@[simp] theorem find?_insert_self (l : Ledger α) (name : String) (value : α) :
    (l.insert name value).find? name = some value := by
  simp [find?_insert]

/-! ## Names through insertion -/

private theorem find?_go_isSome (name : String) (es : List (String × α)) :
    (find?.go name es).isSome = true ↔ name ∈ es.map (·.1) := by
  induction es with
  | nil => simp [find?.go]
  | cons e es ih =>
    obtain ⟨n, v⟩ := e
    by_cases hn : n = name
    · simp [find?.go, hn]
    · simp [find?.go, hn, ih, Ne.symm hn]

/-- The listed names are exactly those a look-up finds. -/
theorem find?_isSome_iff (l : Ledger α) (name : String) :
    (l.find? name).isSome = true ↔ name ∈ l.names :=
  find?_go_isSome name l.entries

private theorem map_fst_insert_go (name : String) (value : α) (es : List (String × α)) :
    (insert.go name value es).map (·.1) =
      if name ∈ es.map (·.1) then es.map (·.1) else es.map (·.1) ++ [name] := by
  induction es with
  | nil => simp [insert.go]
  | cons e es ih =>
    obtain ⟨n, v⟩ := e
    by_cases hn : n = name
    · simp [insert.go, hn]
    · simp only [insert.go, hn, if_false, List.map_cons, ih, List.mem_cons, Ne.symm hn, false_or]
      split <;> simp

/-- An insertion appends a name exactly when it is new. -/
theorem names_insert (l : Ledger α) (name : String) (value : α) :
    (l.insert name value).names =
      if name ∈ l.names then l.names else l.names ++ [name] :=
  map_fst_insert_go name value l.entries

/-- No name is listed twice. -/
theorem nodup_names_insert {l : Ledger α} (h : l.names.Nodup) (name : String) (value : α) :
    (l.insert name value).names.Nodup := by
  rw [names_insert]
  split
  · exact h
  · rename_i hn
    rw [List.nodup_append]
    refine ⟨h, by simp, ?_⟩
    intro a ha b hb
    simp only [List.mem_singleton] at hb
    subst hb
    exact fun heq => hn (heq ▸ ha)

end Ledger

/-! ## Lists without repetitions -/

/-- A name is listed once more unless it is listed. -/
theorem eraseDups_append_singleton (cs : List String) (c : String) :
    (cs ++ [c]).eraseDups =
      if c ∈ cs.eraseDups then cs.eraseDups else cs.eraseDups ++ [c] := by
  rw [List.eraseDups_append]
  by_cases h : c ∈ cs
  · rw [if_pos (List.mem_eraseDups.mpr h), show [c].removeAll cs = [] by simp [List.removeAll, h]]
    exact List.append_nil _
  · rw [if_neg (mt List.mem_eraseDups.mp h), show [c].removeAll cs = [c] by simp [List.removeAll, h]]
    rfl

end VulkanWire
