import VulkanWire.Json.Writer
import VulkanWire.Proofs.Json.RoundTrip
import VulkanWire.Proofs.Schema.Fields
import VulkanWire.Tool.Load

/-!
# Schemas through their documents

Every schema is read back from its document, whether the document is at hand or
arrives as text: no field gets lost by being left out, none is taken for another
one, and the category beside the fields of a definition is none of them. A
definition that arrives has to be stored as a whole before its category is known,
which its document always can be, since it is shallow and has no other numbers
than small integers. What is left to go wrong with the text of a schema is that
the schema is not valid.

## Main definitions

* `TypeDef.fields`, `StructDef.fields`, … — the fields of each kind of definition
  with their values, those without one included.

## Main results

* `Schema.decode?_encode` — schemas are read back from their documents.
* `Schema.tidy` — their documents are tidy.
* `Schema.parse_of_parse?` — what the text of a schema's document is read as.
* `Schema.round_trip` — schemas, documents and texts.
-/

namespace VulkanWire

open Json

namespace TypeDef

/-- The fields of a plain type, in declaration order. -/
def fields (d : TypeDef) : List (String × Option Json) := [
  ("name", some (text d.name)),
  ("alias", d.aliasOf.map text),
  ("kind", some (text d.kind.spelling)),
  ("parent", d.parent.map text),
  ("underlying", d.underlying.map text)]

theorem encode_eq (d : TypeDef) : d.encode = sparse d.fields := by
  simp [encode, fields, sparse_cons, optionalMember_eq]

theorem decode?_encode (r : Reading) (d : TypeDef) : decode? r (record d.encode) = some d := by
  have hfields := fields?_record d.encode_eq (by simp [fields])
  have hkind : choice? r TypeKind.all TypeKind.spelling (text d.kind.spelling) = some d.kind := by
    cases d.kind <;> rfl
  simp only [fields, List.map_cons, List.map_nil] at hfields
  rw [decode?, hfields]
  simp [hkind]

theorem tidy_fields (d : TypeDef) : ∀ f ∈ d.fields, ∀ v ∈ f.2, Tidy 2 v := by
  simp [fields]

end TypeDef

namespace Member

/-- The fields of a member, in declaration order. -/
def fields (m : Member) : List (String × Option Json) := [
  ("name", some (text m.name)),
  ("type", some (text m.typeName)),
  ("pointer", some (int m.pointer.toNat)),
  ("is_const", some (.bool m.isConst)),
  ("len", m.len.map text),
  ("optional", some (.bool m.optional))]

theorem encode_eq (m : Member) : m.encode = sparse m.fields := by
  simp [encode, fields, sparse_cons, optionalMember_eq]

theorem decode?_encode (m : Member) : decode? (record m.encode) = some m := by
  have hfields := fields?_record m.encode_eq (by simp [fields])
  simp only [fields, List.map_cons, List.map_nil] at hfields
  rw [decode?, hfields]
  simp

theorem tidy (m : Member) : Tidy 1 (record m.encode) :=
  tidy_record m.encode_eq (by simp [fields])

end Member

namespace StructDef

/-- The fields of a struct, in declaration order. -/
def fields (d : StructDef) : List (String × Option Json) := [
  ("name", some (text d.name)),
  ("alias", d.aliasOf.map text),
  ("members", some (.array (d.members.map fun m => record m.encode))),
  ("structure_type", d.structureType.map text),
  ("extends", if d.extendedStructs = [] then none else some (.array (d.extendedStructs.map text))),
  ("union", some (.bool d.isUnion)),
  ("returned_only", some (.bool d.returnedOnly))]

theorem encode_eq (d : StructDef) : d.encode = sparse d.fields := by
  by_cases hempty : d.extendedStructs = [] <;>
    simp [encode, fields, sparse_cons, optionalMember_eq, hempty]

theorem decode?_encode (d : StructDef) : decode? (record d.encode) = some d := by
  have hfields := fields?_record d.encode_eq (by simp [fields])
  simp only [fields, List.map_cons, List.map_nil] at hfields
  have hmembers : listOf Member.decode? (.array (d.members.map fun m => record m.encode)) =
      some d.members :=
    listOf_map fun m _ => m.decode?_encode
  have hextends : defaulted [] (listOf toText?) (if d.extendedStructs = [] then none
      else some (.array (d.extendedStructs.map text))) = some d.extendedStructs := by
    by_cases hempty : d.extendedStructs = []
    · rw [if_pos hempty, hempty]
      rfl
    · rw [if_neg hempty]
      exact listOf_text d.extendedStructs
  rw [decode?, hfields]
  simp [hmembers, hextends]

theorem tidy_fields (d : StructDef) : ∀ f ∈ d.fields, ∀ v ∈ f.2, Tidy 2 v := by
  have hmembers : Tidy 2 (.array (d.members.map fun m => record m.encode)) :=
    tidy_list fun m _ => m.tidy
  by_cases hempty : d.extendedStructs = [] <;> simp [fields, hmembers, hempty]

end StructDef

namespace EnumValue

/-- The fields of a value, in declaration order. -/
def fields (d : EnumValue) : List (String × Option Json) := [
  ("name", some (text d.name)),
  ("value", d.value.map fun n => int n.toInt),
  ("offset", d.offset.map fun n => int n.toNat),
  ("extension", d.extension.map text),
  ("alias", d.aliasOf.map text)]

theorem encode_eq (d : EnumValue) : d.encode = sparse d.fields := by
  simp [encode, fields, sparse_cons, optionalMember_eq]

theorem decode?_encode (d : EnumValue) : decode? (record d.encode) = some d := by
  have hfields := fields?_record d.encode_eq (by simp [fields])
  simp only [fields, List.map_cons, List.map_nil] at hfields
  rw [decode?, hfields]
  simp

theorem tidy (d : EnumValue) : Tidy 1 (record d.encode) :=
  tidy_record d.encode_eq (by simp [fields])

end EnumValue

namespace GroupDef

/-- The fields of an enum group, in declaration order. -/
def fields (d : GroupDef) : List (String × Option Json) := [
  ("name", some (text d.name)),
  ("alias", d.aliasOf.map text),
  ("bitmask", some (.bool d.isBitmask)),
  ("values", some (.array (d.values.map fun v => record v.encode)))]

theorem encode_eq (d : GroupDef) : d.encode = sparse d.fields := by
  simp [encode, fields, sparse_cons, optionalMember_eq]

theorem decode?_encode (d : GroupDef) : decode? (record d.encode) = some d := by
  have hfields := fields?_record d.encode_eq (by simp [fields])
  simp only [fields, List.map_cons, List.map_nil] at hfields
  have hvalues : listOf EnumValue.decode? (.array (d.values.map fun v => record v.encode)) =
      some d.values :=
    listOf_map fun v _ => v.decode?_encode
  rw [decode?, hfields]
  simp [hvalues]

theorem tidy_fields (d : GroupDef) : ∀ f ∈ d.fields, ∀ v ∈ f.2, Tidy 2 v := by
  have hvalues : Tidy 2 (.array (d.values.map fun v => record v.encode)) :=
    tidy_list fun v _ => v.tidy
  simp [fields, hvalues]

end GroupDef

namespace EnumDef

/-- The fields of a constant, in declaration order. -/
def fields (d : EnumDef) : List (String × Option Json) := [
  ("name", some (text d.name)),
  ("alias", d.aliasOf.map text),
  ("value", d.value.map text)]

theorem encode_eq (d : EnumDef) : d.encode = sparse d.fields := by
  simp [encode, fields, sparse_cons, optionalMember_eq]

theorem decode?_encode (d : EnumDef) : decode? (record d.encode) = some d := by
  have hfields := fields?_record d.encode_eq (by simp [fields])
  simp only [fields, List.map_cons, List.map_nil] at hfields
  rw [decode?, hfields]
  simp

theorem tidy_fields (d : EnumDef) : ∀ f ∈ d.fields, ∀ v ∈ f.2, Tidy 2 v := by
  simp [fields]

end EnumDef

namespace CommandDef

/-- The fields of a command, in declaration order. -/
def fields (d : CommandDef) : List (String × Option Json) := [
  ("name", some (text d.name)),
  ("alias", d.aliasOf.map text),
  ("return_type", some (text d.returnType)),
  ("params", some (.array (d.params.map fun m => record m.encode)))]

theorem encode_eq (d : CommandDef) : d.encode = sparse d.fields := by
  simp [encode, fields, sparse_cons, optionalMember_eq]

theorem decode?_encode (d : CommandDef) : decode? (record d.encode) = some d := by
  have hfields := fields?_record d.encode_eq (by simp [fields])
  simp only [fields, List.map_cons, List.map_nil] at hfields
  have hparams : listOf Member.decode? (.array (d.params.map fun m => record m.encode)) =
      some d.params :=
    listOf_map fun m _ => m.decode?_encode
  rw [decode?, hfields]
  simp [hparams]

theorem tidy_fields (d : CommandDef) : ∀ f ∈ d.fields, ∀ v ∈ f.2, Tidy 2 v := by
  have hparams : Tidy 2 (.array (d.params.map fun m => record m.encode)) :=
    tidy_list fun m _ => m.tidy
  simp [fields, hparams]

end CommandDef

/-! ## Definitions with their category -/

namespace Element

/-- The fields of a definition. -/
def fields : Element → List (String × Option Json)
  | type d => d.fields
  | struct d => d.fields
  | group d => d.fields
  | enum d => d.fields
  | command d => d.fields

theorem encodeContent_eq (e : Element) : e.encodeContent = sparse e.fields := by
  cases e with
  | type d => exact d.encode_eq
  | struct d => exact d.encode_eq
  | group d => exact d.encode_eq
  | enum d => exact d.encode_eq
  | command d => exact d.encode_eq

/-- No definition has a field that is called like the category. -/
theorem category_not_mem (e : Element) : "category" ∉ e.fields.map (·.1) := by
  cases e <;>
    simp [fields, TypeDef.fields, StructDef.fields, GroupDef.fields, EnumDef.fields,
      CommandDef.fields]

/-- The category is split off the other members of a document. -/
theorem splitCategory?_record {members : List (String × Json)} (category : Json)
    (h : "category" ∉ members.map (·.1)) :
    splitCategory? (record (("category", category) :: members)) =
      some (category, record members) := by
  have hother : ∀ m ∈ members.map fun m => (some m.1, m.2), m.1 ≠ some "category" := by
    intro m hm
    obtain ⟨m', hm', rfl⟩ := List.mem_map.mp hm
    intro heq
    exact h (List.mem_map.mpr ⟨m', hm', Option.some.inj heq⟩)
  have hnone : (members.map fun m => (some m.1, m.2)).filter
      (fun m => m.1 = some "category") = [] := by
    rw [List.filter_eq_nil_iff]
    intro m hm
    simpa using hother m hm
  have hall : (members.map fun m => (some m.1, m.2)).filter
      (fun m => m.1 ≠ some "category") = members.map fun m => (some m.1, m.2) := by
    rw [List.filter_eq_self]
    intro m hm
    simpa using hother m hm
  have hfirst : ((some "category", category) :: members.map fun m => (some m.1, m.2)).filter
      (fun m => m.1 = some "category") = [(some "category", category)] := by
    rw [List.filter_cons_of_pos (by simp), hnone]
  have hrest : ((some "category", category) :: members.map fun m => (some m.1, m.2)).filter
      (fun m => m.1 ≠ some "category") = members.map fun m => (some m.1, m.2) := by
    rw [List.filter_cons_of_neg (by simp), hall]
  rw [record, List.map_cons, splitCategory?, hfirst, hrest]
  rfl

theorem tidy (e : Element) : Tidy 3 e.encode := by
  have hmembers : ("category", text e.category.spelling) :: e.encodeContent =
      sparse (("category", some (text e.category.spelling)) :: e.fields) := by
    rw [encodeContent_eq, sparse_cons]
    rfl
  refine tidy_record hmembers (List.forall_mem_cons.mpr ⟨by simp, ?_⟩)
  cases e with
  | type d => exact d.tidy_fields
  | struct d => exact d.tidy_fields
  | group d => exact d.tidy_fields
  | enum d => exact d.tidy_fields
  | command d => exact d.tidy_fields

/-- A definition is stored when its document is read. -/
theorem isStorable_encode (e : Element) : isStorable e.encode = true := by
  have hdepth : e.encode.depth ≤ depthLimit := Nat.le_trans e.tidy.depth_le (by decide)
  rw [isStorable, e.tidy.isPlain, Bool.true_and, decide_eq_true hdepth]

/-- A definition is read back, whether or not it has to be stored for it. -/
theorem decode?_encode (s : DocumentState) (e : Element) : decode? s e.encode = some e := by
  have hsplit : splitCategory? e.encode =
      some (text e.category.spelling, record e.encodeContent) := by
    refine splitCategory?_record _ ?_
    intro hmem
    obtain ⟨m, hm, hname⟩ := List.mem_map.mp hmem
    rw [encodeContent_eq] at hm
    exact e.category_not_mem (hname ▸ names_sparse e.fields m hm)
  have hcategory : Category.all.find? (fun c => c.spelling = e.category.spelling) =
      some e.category := by
    cases e.category <;> rfl
  have hstored : ¬ (s = .arriving ∧ ¬ isStorable e.encode = true) :=
    fun h => h.2 e.isStorable_encode
  rw [decode?, if_neg hstored, hsplit]
  simp only [Option.bind_eq_bind, Option.bind_some, toText?_text, hcategory]
  cases e with
  | type d => simp [category, encodeContent, d.decode?_encode]
  | struct d => simp [category, encodeContent, d.decode?_encode]
  | group d => simp [category, encodeContent, d.decode?_encode]
  | enum d => simp [category, encodeContent, d.decode?_encode]
  | command d => simp [category, encodeContent, d.decode?_encode]

end Element

/-! ## Features and schemas -/

namespace Feature

/-- The fields of a feature, in declaration order. -/
def fields (f : Feature) : List (String × Option Json) := [
  ("name", some (text f.name)),
  ("kind", some (text f.kind.spelling)),
  ("number", f.number.map fun n => int n.toNat),
  ("require", some (.array (f.require.map text))),
  ("elements", some (.array (f.elements.map (·.encode))))]

theorem encode_eq (f : Feature) : f.encode = record (sparse f.fields) := by
  simp [encode, fields, sparse_cons, optionalMember_eq]

theorem decode?_encode (s : DocumentState) (f : Feature) : decode? s f.encode = some f := by
  have hfields : fields? _ (record (sparse f.fields)) = _ := fields?_record rfl (by simp [fields])
  rw [← encode_eq] at hfields
  simp only [fields, List.map_cons, List.map_nil] at hfields
  have hkind : choice? .direct FeatureKind.all FeatureKind.spelling (text f.kind.spelling) =
      some f.kind := by
    cases f.kind <;> rfl
  have helements : listOf (Element.decode? s) (.array (f.elements.map (·.encode))) =
      some f.elements :=
    listOf_map fun e _ => e.decode?_encode s
  rw [decode?, hfields]
  simp [hkind, helements]

theorem tidy (f : Feature) : Tidy 5 f.encode := by
  have helements : Tidy 4 (.array (f.elements.map (·.encode))) := tidy_list fun e _ => e.tidy
  rw [encode_eq]
  exact tidy_record rfl (by simp [fields, helements])

end Feature

namespace Schema

/-- The only field of a schema. -/
def fields (s : Schema) : List (String × Option Json) :=
  [("features", some (.array (s.features.map (·.encode))))]

theorem encode_eq (s : Schema) : s.encode = record (sparse s.fields) := rfl

/-- A schema is read back from its document, also while that arrives as text. -/
theorem decode?_encode (state : DocumentState) (s : Schema) : decode? state s.encode = some s := by
  have hfields : fields? _ (record (sparse s.fields)) = _ := fields?_record rfl (by simp [fields])
  rw [← encode_eq] at hfields
  simp only [fields, List.map_cons, List.map_nil] at hfields
  have hfeatures : listOf (Feature.decode? state) (.array (s.features.map (·.encode))) =
      some s.features :=
    listOf_map fun f _ => f.decode?_encode state
  rw [decode?, hfields]
  simp [hfeatures]

theorem tidy (s : Schema) : Tidy 7 s.encode := by
  have hfeatures : Tidy 6 (.array (s.features.map (·.encode))) := tidy_list fun f _ => f.tidy
  rw [encode_eq]
  exact tidy_record rfl (by simp [fields, hfeatures])

/-- A text that holds the document of a schema is read as the schema, if that is valid, and else
refused for the schema's own offence. -/
theorem parse_of_parse? {s : Schema} {content : String} (h : Json.parse? content = some s.encode)
    (path : Path) :
    parse path content = match s.validate with
      | .ok () => .ok s
      | .error fault => .error (.invalid path fault) := by
  have hread : (Json.parse? content).bind (decode? .arriving) = some s := by
    rw [h, Option.bind_some, decode?_encode]
  cases hvalid : s.validate with
  | ok _ => simp only [parse, hread, hvalid]
  | error fault => simp only [parse, hread, hvalid]

/-- Only valid schemas are read from texts. -/
theorem validate_of_parse {s : Schema} {content : String} {path : Path}
    (h : parse path content = .ok s) : s.validate = .ok () := by
  rw [parse] at h
  split at h
  · cases h
  · split at h
    · rename_i hvalid
      injection h with h
      rw [← h]
      exact hvalid
    · cases h

/-- Every schema is read back from its document, held or arriving. The document is read back from
the text that is written for it, and any text that holds the document is read as the schema exactly
if the schema is valid. So what is once read is read again from what is written for it. -/
theorem round_trip (s : Schema) (path : Path) :
    (∀ state, decode? state s.encode = some s) ∧
      Json.parse? (render s.encode) = some s.encode ∧
      (∀ content, Json.parse? content = some s.encode →
        (parse path content = .ok s ↔ s.validate = .ok ()) ∧
          ∀ fault, parse path content = .error (.invalid path fault) ↔
            s.validate = .error fault) ∧
      ∀ content, parse path content = .ok s → parse path (render s.encode) = .ok s := by
  have hrender : Json.parse? (render s.encode) = some s.encode := parse?_render s.tidy
  refine ⟨fun state => decode?_encode state s, hrender, ?_, ?_⟩
  · intro content hcontent
    rw [parse_of_parse? hcontent path]
    cases s.validate <;> simp
  · intro content hcontent
    rw [parse_of_parse? hrender path, validate_of_parse hcontent]

/-- An extension with a definition of every category, numbers at the ends of their ranges, and names
that have to be escaped. -/
def marginalSchema : Schema where
  features := [
    { name := "VK_EXT_\"edge\"", kind := .deviceExtension, number := some 4294967295
      require := ["vkEdge\n"]
      elements := [
        .type { name := "VkEdge", kind := .handle, parent := some "" },
        .struct { name := "VkEdgeInfo", structureType := some "\x01", extendedStructs := ["a\\b"]
                  members := [{ name := "pNext", typeName := "void", pointer := 255 }] },
        .group { name := "VkEdgeBits", isBitmask := true
                 values := [{ name := "VK_EDGE_MIN", value := some (-9223372036854775808) },
                            { name := "VK_EDGE_LAST", offset := some 4294967295 }] },
        .enum { name := "VK_EDGE_COUNT", value := some "(~0U)" },
        .command { name := "vkEdge\n", aliasOf := some "vkEdge" }] }]

/-- What is written for it is read as the same schema. -/
theorem round_trip_sample :
    parse "vk.json" (render marginalSchema.encode) = .ok marginalSchema :=
  have hrender := (round_trip marginalSchema "vk.json").2.1
  ((round_trip marginalSchema "vk.json").2.2.1 _ hrender).1.mpr rfl

end Schema

end VulkanWire
