import VulkanWire.Proofs.Json.Tidy
import VulkanWire.Schema.Codec

/-!
# Fields of documents

A document with one member for every field that has a value gives each declared
field its value and nothing to the others, whatever the fields are, as long as
they have different names. So a type is read back as it was written once each of
its fields is.

## Main definitions

* `Json.sparse` — the members of fields that may be without a value.

## Main results

* `Json.fields?_record` — what the declared fields are given.
* `Json.nullable_map`, `Json.listOf_map` — optional fields and lists.
* `Json.toUInt8?_int`, `Json.toUInt32?_int`, `Json.toInt64?_int` — integers.
-/

namespace VulkanWire.Json

/-! ## Members -/

/-- The members of fields, without those that have no value. -/
def sparse (fields : List (String × Option Json)) : List (String × Json) :=
  fields.filterMap fun f => f.2.map (f.1, ·)

@[simp] theorem sparse_nil : sparse [] = [] := rfl

theorem sparse_cons (f : String × Option Json) (fields : List (String × Option Json)) :
    sparse (f :: fields) = (f.2.map (f.1, ·)).toList ++ sparse fields := by
  obtain ⟨name, value?⟩ := f
  cases value? <;> rfl

theorem optionalMember_eq {α : Type} (name : String) (write : α → Json) (a? : Option α) :
    optionalMember name write a? = ((a?.map write).map (name, ·)).toList := by
  cases a? <;> rfl

/-- No member has another name than the fields. -/
theorem names_sparse (fields : List (String × Option Json)) :
    ∀ m ∈ sparse fields, m.1 ∈ fields.map (·.1) := by
  intro m hm
  obtain ⟨f, hf, hmember⟩ := List.mem_filterMap.mp hm
  obtain ⟨value, -, rfl⟩ := Option.map_eq_some_iff.mp hmember
  exact List.mem_map_of_mem hf

theorem filter_sparse_of_not_mem {name : String} {fields : List (String × Option Json)}
    (h : name ∉ fields.map (·.1)) : (sparse fields).filter (fun m => m.1 = name) = [] := by
  rw [List.filter_eq_nil_iff]
  intro m hm
  have hne : m.1 ≠ name := fun heq => h (heq ▸ names_sparse fields m hm)
  simpa using hne

/-- Of fields with different names, each has its own members. -/
theorem filter_sparse {fields : List (String × Option Json)} (h : (fields.map (·.1)).Nodup)
    {f : String × Option Json} (hf : f ∈ fields) :
    (sparse fields).filter (fun m => m.1 = f.1) = (f.2.map (f.1, ·)).toList := by
  induction fields with
  | nil => cases hf
  | cons g fields ih =>
      rw [List.map_cons, List.nodup_cons] at h
      rw [sparse_cons, List.filter_append]
      rcases List.mem_cons.mp hf with rfl | hf
      · rw [filter_sparse_of_not_mem h.1, List.append_nil]
        cases f.2 <;> simp
      · have hne : g.1 ≠ f.1 := fun heq => h.1 (heq ▸ List.mem_map_of_mem hf)
        rw [ih h.2 hf]
        cases g.2 <;> simp [hne]

theorem mapM_eq_some_map {α β : Type} {read : α → Option β} {value : α → β} {l : List α}
    (h : ∀ a ∈ l, read a = some (value a)) : l.mapM read = some (l.map value) := by
  induction l with
  | nil => rfl
  | cons a l ih =>
      rw [List.mapM_cons, h a List.mem_cons_self, ih fun b hb => h b (List.mem_cons_of_mem _ hb)]
      rfl

/-- The declared fields are given the values that they were written with. -/
theorem fields?_record {members : List (String × Json)} {fields : List (String × Option Json)}
    (hmembers : members = sparse fields) (h : (fields.map (·.1)).Nodup) :
    fields? (fields.map (·.1)) (record members) = some (fields.map (·.2)) := by
  have hnamed : ((sparse fields).map fun m => (some m.1, m.2)).all (·.1.isSome) = true := by
    simp
  have hvalue : ∀ f ∈ fields, ((sparse fields).map fun m => (some m.1, m.2)).filter
      (fun m => m.1 = some f.1) = (f.2.map (some f.1, ·)).toList := by
    intro f hf
    have hkey : (fun m : Option String × Json => decide (m.1 = some f.1)) ∘
        (fun m : String × Json => (some m.1, m.2)) = fun m => decide (m.1 = f.1) := by
      funext m
      simp
    rw [List.filter_map, hkey, filter_sparse h hf]
    cases f.2 <;> rfl
  rw [hmembers, record, fields?, if_pos hnamed, List.mapM_map]
  refine mapM_eq_some_map ?_
  intro f hf
  rw [Function.comp_apply, hvalue f hf]
  cases f.2 <;> rfl

/-! ## Values -/

section

variable {α : Type}

/-- An optional field is read back, as long as no value is written as `null`. -/
theorem nullable_map {read : Json → Option α} {write : α → Json}
    (h : ∀ a, read (write a) = some a) (hnull : ∀ a, write a ≠ .null) (a? : Option α) :
    nullable read (a?.map write) = some a? := by
  cases a? with
  | none => rfl
  | some a =>
      have hsome : nullable read (some (write a)) = (read (write a)).map some := by
        unfold nullable
        split
        · rename_i heq
          exact absurd (Option.some.inj heq) (hnull a)
        · rename_i heq
          cases heq
          rfl
        · rename_i heq
          cases heq
      rw [Option.map_some, hsome, h]
      rfl

theorem listOf_map {read : Json → Option α} {write : α → Json} {l : List α}
    (h : ∀ a ∈ l, read (write a) = some a) : listOf read (.array (l.map write)) = some l := by
  show (l.map write).mapM read = some l
  rw [List.mapM_map]
  exact (mapM_eq_some_map h).trans (by rw [List.map_id'])

end

/-! ## Integers -/

theorem within?_int {low high n : Int} (h : low ≤ n ∧ n ≤ high) :
    within? low high (int n) = some n := by
  rw [within?, toInt?_int]
  exact if_pos h

@[simp] theorem toUInt8?_int (n : UInt8) : toUInt8? (int n.toNat) = some n := by
  have hn : n.toNat < 256 := n.toNat_lt
  rw [toUInt8?, within?_int (by omega), Option.map_some, Int.toNat_natCast, UInt8.ofNat_toNat]

theorem toUInt32?_int (n : UInt32) : toUInt32? (int n.toNat) = some n := by
  have hn : n.toNat < UInt32.size := n.toNat_lt
  rw [toUInt32?, within?_int (by omega), Option.map_some, Int.toNat_natCast, UInt32.ofNat_toNat]

theorem toInt64?_int (n : Int64) : toInt64? (int n.toInt) = some n := by
  rw [toInt64?, within?_int ⟨n.minValue_le_toInt, n.toInt_le⟩, Option.map_some, Int64.ofInt_toInt]

/-! ## Fields of the kinds in use -/

@[simp] theorem required_some {α : Type} (read : Json → Option α) (v : Json) :
    required read (some v) = read v := rfl

@[simp] theorem defaulted_some {α : Type} (default : α) (read : Json → Option α) (v : Json) :
    defaulted default read (some v) = read v := rfl

@[simp] theorem toBool?_bool (b : Bool) : (Json.bool b).toBool? = some b := rfl

@[simp] theorem nullable_text (s? : Option String) : nullable toText? (s?.map text) = some s? :=
  nullable_map toText?_text (fun _ => Json.noConfusion) s?

@[simp] theorem nullable_uint32 (n? : Option UInt32) :
    nullable toUInt32? (n?.map fun n => int n.toNat) = some n? :=
  nullable_map toUInt32?_int (fun _ => Json.noConfusion) n?

@[simp] theorem nullable_int64 (n? : Option Int64) :
    nullable toInt64? (n?.map fun n => int n.toInt) = some n? :=
  nullable_map toInt64?_int (fun _ => Json.noConfusion) n?

@[simp] theorem listOf_text (l : List String) : listOf toText? (.array (l.map text)) = some l :=
  listOf_map fun s _ => toText?_text s

/-! ## Nesting -/

/-- Fields whose values are tidy make a tidy document. -/
theorem tidy_record {levels : Nat} {members : List (String × Json)}
    {fields : List (String × Option Json)} (hmembers : members = sparse fields)
    (h : ∀ f ∈ fields, ∀ v ∈ f.2, Tidy levels v) : Tidy (levels + 1) (record members) := by
  refine .record ?_
  intro m hm
  rw [hmembers] at hm
  obtain ⟨f, hf, hmember⟩ := List.mem_filterMap.mp hm
  obtain ⟨v, hv, rfl⟩ := Option.map_eq_some_iff.mp hmember
  exact h f hf v hv

section

variable {levels : Nat}

@[simp] theorem tidy_text (s : String) : Tidy levels (text s) := .text s

@[simp] theorem tidy_bool (b : Bool) : Tidy levels (.bool b) := .bool b

theorem tidy_natural {n : Nat} (h : n < UInt64.size) : Tidy levels (int n) :=
  .int (by rwa [Int.natAbs_natCast])

@[simp] theorem tidy_uint8 (n : UInt8) : Tidy levels (int n.toNat) :=
  tidy_natural (Nat.lt_trans n.toNat_lt (by decide))

@[simp] theorem tidy_uint32 (n : UInt32) : Tidy levels (int n.toNat) :=
  tidy_natural (Nat.lt_trans n.toNat_lt (by decide))

@[simp] theorem tidy_int64 (n : Int64) : Tidy levels (int n.toInt) := by
  have hlow := n.le_toInt
  have hhigh := n.toInt_lt
  have hsize : UInt64.size = 2 ^ 64 := rfl
  exact .int (by omega)

theorem tidy_list {α : Type} {write : α → Json} {l : List α} (h : ∀ a ∈ l, Tidy levels (write a)) :
    Tidy (levels + 1) (.array (l.map write)) := by
  refine .array ?_
  intro v hv
  obtain ⟨a, ha, rfl⟩ := List.mem_map.mp hv
  exact h a ha

@[simp] theorem tidy_texts (l : List String) : Tidy (levels + 1) (.array (l.map text)) :=
  tidy_list fun s _ => tidy_text s

end

end VulkanWire.Json
