import VulkanWire.Json.Value
import VulkanWire.Schema.Basic

/-!
# Schemas as JSON documents

Each definition has a document form: an object with one member per field, or an
array of the fields in declaration order whose defaulted tail may be left off.
Unknown members are skipped; a known member written twice, a missing field
without a default and a value of the wrong shape are refused.

A definition inside a feature carries its category beside its fields, so the
whole of it is stored before the category is known. Where a schema is read from
a text, that is stricter than skipping: nothing in a definition may be malformed
text or an infinite number, and it counts towards the nesting limit. A document
that is held already has been stored before.

## Main definitions

* `Schema.decode?`, `Schema.encode` — the two halves for whole schemas.
* `Element.decode?`, `Element.encode` — the same for definitions.
-/

namespace VulkanWire

namespace Json

/-! ## Fields -/

/-- The values given to the declared fields, in declaration order. -/
def fields? (names : List String) : Json → Option (List (Option Json))
  | .array items =>
    if items.length ≤ names.length then
      some ((List.range names.length).map fun i => items[i]?)
    else none
  | .object members =>
    if members.all (·.1.isSome) then
      names.mapM fun n =>
        match members.filter (·.1 = some n) with
        | [] => some none
        | [(_, v)] => some (some v)
        | _ => none
    else none
  | _ => none

/-- A field that must be given. -/
def required {α : Type} (read : Json → Option α) : Option Json → Option α
  | some v => read v
  | none => none

/-- A field with a default, for when it is not given. -/
def defaulted {α : Type} (default : α) (read : Json → Option α) : Option Json → Option α
  | some v => read v
  | none => some default

/-- A field that may be absent, by not being given or by being `null`. -/
def nullable {α : Type} (read : Json → Option α) : Option Json → Option (Option α)
  | some .null => some none
  | some v => (read v).map some
  | none => some none

/-- An array of values of one kind. -/
def listOf {α : Type} (read : Json → Option α) (v : Json) : Option (List α) := do
  (← v.toItems?).mapM read

/-- An integer within bounds. -/
def within? (low high : Int) (v : Json) : Option Int := do
  let n ← v.toInt?
  if low ≤ n ∧ n ≤ high then some n else none

def toUInt8? (v : Json) : Option UInt8 := (within? 0 255 v).map fun n => .ofNat n.toNat

def toUInt32? (v : Json) : Option UInt32 :=
  (within? 0 (UInt32.size - 1) v).map fun n => .ofNat n.toNat

/-- An integer that fits 64 bits with sign. -/
def toInt64? (v : Json) : Option Int64 := (within? Int64.minValue.toInt Int64.maxValue.toInt v).map .ofInt

/-- How a document is read: as it stands, or from a copy taken before its type was known. -/
inductive Reading where
  | direct
  | buffered
deriving DecidableEq, Repr

/-- The empty content of a choice without data. A buffered reading also takes an empty object. -/
def isUnit (r : Reading) : Json → Bool
  | .null => true
  | .object [] => r = .buffered
  | _ => false

/-- A choice among named values: its name, or an object that gives the name an empty content. -/
def choice? {α : Type} (r : Reading) (all : List α) (spelling : α → String) (v : Json) :
    Option α := do
  let name ← match v with
    | .string s => s
    | .object [(some name, content)] => if isUnit r content then some name else none
    | _ => none
  all.find? fun a => spelling a = name

/-- A member that is written only when there is a value. -/
def optionalMember {α : Type} (name : String) (write : α → Json) : Option α → List (String × Json)
  | some a => [(name, write a)]
  | none => []

end Json

open Json

/-! ## Definitions -/

namespace TypeDef

def decode? (r : Reading) (v : Json) : Option TypeDef := do
  let [name, aliasOf, kind, parent, underlying] ←
    v.fields? ["name", "alias", "kind", "parent", "underlying"] | none
  return {
    name := ← required toText? name
    aliasOf := ← nullable toText? aliasOf
    kind := ← defaulted .baseType (choice? r TypeKind.all TypeKind.spelling) kind
    parent := ← nullable toText? parent
    underlying := ← nullable toText? underlying }

def encode (d : TypeDef) : List (String × Json) :=
  [("name", text d.name)] ++ optionalMember "alias" text d.aliasOf ++
    [("kind", text d.kind.spelling)] ++ optionalMember "parent" text d.parent ++
    optionalMember "underlying" text d.underlying

end TypeDef

namespace Member

def decode? (v : Json) : Option Member := do
  let [name, type, pointer, isConst, len, optional] ←
    v.fields? ["name", "type", "pointer", "is_const", "len", "optional"] | none
  return {
    name := ← required toText? name
    typeName := ← required toText? type
    pointer := ← defaulted 0 toUInt8? pointer
    isConst := ← defaulted false toBool? isConst
    len := ← nullable toText? len
    optional := ← defaulted false toBool? optional }

def encode (m : Member) : List (String × Json) :=
  [("name", text m.name), ("type", text m.typeName), ("pointer", int m.pointer.toNat),
    ("is_const", .bool m.isConst)] ++ optionalMember "len" text m.len ++
    [("optional", .bool m.optional)]

end Member

namespace StructDef

def decode? (v : Json) : Option StructDef := do
  let [name, aliasOf, members, structureType, extendedStructs, isUnion, returnedOnly] ←
    v.fields? ["name", "alias", "members", "structure_type", "extends", "union", "returned_only"]
    | none
  return {
    name := ← required toText? name
    aliasOf := ← nullable toText? aliasOf
    members := ← defaulted [] (listOf Member.decode?) members
    structureType := ← nullable toText? structureType
    extendedStructs := ← defaulted [] (listOf toText?) extendedStructs
    isUnion := ← defaulted false toBool? isUnion
    returnedOnly := ← defaulted false toBool? returnedOnly }

def encode (d : StructDef) : List (String × Json) :=
  [("name", text d.name)] ++ optionalMember "alias" text d.aliasOf ++
    [("members", .array (d.members.map fun m => record m.encode))] ++
    optionalMember "structure_type" text d.structureType ++
    (if d.extendedStructs = [] then []
      else [("extends", .array (d.extendedStructs.map text))]) ++
    [("union", .bool d.isUnion), ("returned_only", .bool d.returnedOnly)]

end StructDef

namespace EnumValue

def decode? (v : Json) : Option EnumValue := do
  let [name, value, offset, extension, aliasOf] ←
    v.fields? ["name", "value", "offset", "extension", "alias"] | none
  return {
    name := ← required toText? name
    value := ← nullable toInt64? value
    offset := ← nullable toUInt32? offset
    extension := ← nullable toText? extension
    aliasOf := ← nullable toText? aliasOf }

def encode (d : EnumValue) : List (String × Json) :=
  [("name", text d.name)] ++ optionalMember "value" (fun n => int n.toInt) d.value ++
    optionalMember "offset" (fun n => int n.toNat) d.offset ++
    optionalMember "extension" text d.extension ++ optionalMember "alias" text d.aliasOf

end EnumValue

namespace GroupDef

def decode? (v : Json) : Option GroupDef := do
  let [name, aliasOf, isBitmask, values] ← v.fields? ["name", "alias", "bitmask", "values"] | none
  return {
    name := ← required toText? name
    aliasOf := ← nullable toText? aliasOf
    isBitmask := ← defaulted false toBool? isBitmask
    values := ← defaulted [] (listOf EnumValue.decode?) values }

def encode (d : GroupDef) : List (String × Json) :=
  [("name", text d.name)] ++ optionalMember "alias" text d.aliasOf ++
    [("bitmask", .bool d.isBitmask), ("values", .array (d.values.map fun v => record v.encode))]

end GroupDef

namespace EnumDef

def decode? (v : Json) : Option EnumDef := do
  let [name, aliasOf, value] ← v.fields? ["name", "alias", "value"] | none
  return {
    name := ← required toText? name
    aliasOf := ← nullable toText? aliasOf
    value := ← nullable toText? value }

def encode (d : EnumDef) : List (String × Json) :=
  [("name", text d.name)] ++ optionalMember "alias" text d.aliasOf ++
    optionalMember "value" text d.value

end EnumDef

namespace CommandDef

def decode? (v : Json) : Option CommandDef := do
  let [name, aliasOf, returnType, params] ←
    v.fields? ["name", "alias", "return_type", "params"] | none
  return {
    name := ← required toText? name
    aliasOf := ← nullable toText? aliasOf
    returnType := ← defaulted "void" toText? returnType
    params := ← defaulted [] (listOf Member.decode?) params }

def encode (d : CommandDef) : List (String × Json) :=
  [("name", text d.name)] ++ optionalMember "alias" text d.aliasOf ++
    [("return_type", text d.returnType),
      ("params", .array (d.params.map fun m => record m.encode))]

end CommandDef

/-- How far the document of a schema has come. -/
inductive DocumentState where
  /-- It is being read from a text. -/
  | arriving
  /-- It has been stored as a whole. -/
  | held
deriving DecidableEq, Repr

namespace Element

/-- How deeply a definition inside a schema document may be nested: the document as a whole may
hold 127 levels, and four stand above a definition. -/
def depthLimit : Nat := 123

/-- Whether a definition's document can be stored while a text is read. -/
def isStorable (v : Json) : Bool := v.isPlain && v.depth ≤ depthLimit

/-- Splits the category off a definition's document. -/
def splitCategory? : Json → Option (Json × Json)
  | .array (category :: rest) => some (category, .array rest)
  | .object members =>
    match members.filter (·.1 = some "category") with
    | [(_, category)] => some (category, .object (members.filter (·.1 ≠ some "category")))
    | _ => none
  | _ => none

def decode? (s : DocumentState) (v : Json) : Option Element := do
  if s = .arriving ∧ ¬ isStorable v then none
  else
    let (category, content) ← splitCategory? v
    let name ← category.toText?
    match ← Category.all.find? fun c => c.spelling = name with
    | .type => return .type (← TypeDef.decode? .buffered content)
    | .struct => return .struct (← StructDef.decode? content)
    | .group => return .group (← GroupDef.decode? content)
    | .enum => return .enum (← EnumDef.decode? content)
    | .command => return .command (← CommandDef.decode? content)

/-- The members of a definition's document without its category. -/
def encodeContent : Element → List (String × Json)
  | type d => d.encode
  | struct d => d.encode
  | group d => d.encode
  | enum d => d.encode
  | command d => d.encode

def encode (e : Element) : Json :=
  record (("category", text e.category.spelling) :: e.encodeContent)

end Element

/-! ## Features and schemas -/

namespace Feature

def decode? (s : DocumentState) (v : Json) : Option Feature := do
  let [name, kind, number, require, elements] ←
    v.fields? ["name", "kind", "number", "require", "elements"] | none
  return {
    name := ← required toText? name
    kind := ← defaulted .core (choice? .direct FeatureKind.all FeatureKind.spelling) kind
    number := ← nullable toUInt32? number
    require := ← defaulted [] (listOf toText?) require
    elements := ← defaulted [] (listOf (Element.decode? s)) elements }

def encode (f : Feature) : Json :=
  record ([("name", text f.name), ("kind", text f.kind.spelling)] ++
    optionalMember "number" (fun n => int n.toNat) f.number ++
    [("require", .array (f.require.map text)), ("elements", .array (f.elements.map (·.encode)))])

end Feature

namespace Schema

def decode? (s : DocumentState) (v : Json) : Option Schema := do
  let [features] ← v.fields? ["features"] | none
  return { features := ← defaulted [] (listOf (Feature.decode? s)) features }

def encode (s : Schema) : Json :=
  record [("features", .array (s.features.map (·.encode)))]

end Schema

end VulkanWire
