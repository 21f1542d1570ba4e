/-!
# API schemas

A schema is an ordered list of features: core versions and extensions, each
with the commands it requires and the definitions it introduces. A definition
is a plain type, a struct, an enum group, a constant or a command, and may
re-export another definition as an alias.

## Main definitions

* `Schema`, `Feature`, `Element` — the data.
* `Feature.orderedElements` — a feature's definitions in traversal order.
* `Member.spelling`, `Member.declaration` — members as C writes them.
-/

namespace VulkanWire

/-- What a feature is. -/
inductive FeatureKind where
  /-- A core version of the API. -/
  | core
  | instanceExtension
  | deviceExtension
deriving DecidableEq, Repr, Inhabited

namespace FeatureKind

/-- How schema documents spell a kind. -/
def spelling : FeatureKind → String
  | core => "core"
  | instanceExtension => "instance"
  | deviceExtension => "device"

/-- How the API registry spells a kind. -/
def registryName : FeatureKind → String
  | core => "feature"
  | instanceExtension => "instance"
  | deviceExtension => "device"

/-- Whether a feature of this kind is an extension. -/
def isExtension (k : FeatureKind) : Bool := k ≠ core

/-- The kinds with their spellings in schema documents. -/
def all : List FeatureKind := [core, instanceExtension, deviceExtension]

end FeatureKind

/-- What a plain type is. -/
inductive TypeKind where
  | baseType
  | bitmask
  | handle
  | definition
  | inclusion
  | functionPointer
  | primitive
deriving DecidableEq, Repr, Inhabited

namespace TypeKind

/-- How schema documents spell a kind of type. -/
def spelling : TypeKind → String
  | baseType => "basetype"
  | bitmask => "bitmask"
  | handle => "handle"
  | definition => "define"
  | inclusion => "include"
  | functionPointer => "funcpointer"
  | primitive => "primitive"

def all : List TypeKind :=
  [baseType, bitmask, handle, definition, inclusion, functionPointer, primitive]

end TypeKind

/-- A plain type. -/
structure TypeDef where
  name : String
  /-- The definition this one re-exports. -/
  aliasOf : Option String := none
  kind : TypeKind := .baseType
  /-- The handle type above a handle. -/
  parent : Option String := none
  /-- The type that a base type or bitmask stands for. -/
  underlying : Option String := none
deriving DecidableEq, Repr, Inhabited

/-- A member of a struct or a parameter of a command. -/
structure Member where
  name : String
  typeName : String
  /-- Levels of pointer indirection. -/
  pointer : UInt8 := 0
  isConst : Bool := false
  /-- The expression that counts what a pointer leads to. -/
  len : Option String := none
  optional : Bool := false
deriving DecidableEq, Repr, Inhabited

/-- A struct or union. -/
structure StructDef where
  name : String
  /-- The definition this one re-exports. -/
  aliasOf : Option String := none
  members : List Member := []
  /-- The value that marks an extensible struct. -/
  structureType : Option String := none
  /-- The structs whose extension chain this one may join. -/
  extendedStructs : List String := []
  isUnion : Bool := false
  returnedOnly : Bool := false
deriving DecidableEq, Repr, Inhabited

/-- One value of an enum group. -/
structure EnumValue where
  name : String
  value : Option Int64 := none
  /-- The place in the value block of the extension. -/
  offset : Option UInt32 := none
  /-- The extension that introduced the value. -/
  extension : Option String := none
  aliasOf : Option String := none
deriving DecidableEq, Repr, Inhabited

/-- An enum group. -/
structure GroupDef where
  name : String
  /-- The definition this one re-exports. -/
  aliasOf : Option String := none
  isBitmask : Bool := false
  values : List EnumValue := []
deriving DecidableEq, Repr, Inhabited

/-- A constant of the API. -/
structure EnumDef where
  name : String
  /-- The definition this one re-exports. -/
  aliasOf : Option String := none
  value : Option String := none
deriving DecidableEq, Repr, Inhabited

/-- A command of the API. -/
structure CommandDef where
  name : String
  /-- The definition this one re-exports. -/
  aliasOf : Option String := none
  returnType : String := "void"
  params : List Member := []
deriving DecidableEq, Repr, Inhabited

/-- The categories of definitions, in traversal order. -/
inductive Category where
  | type
  | struct
  | group
  | enum
  | command
deriving DecidableEq, Repr, Inhabited

namespace Category

/-- How schema documents and traversal records spell a category. -/
def spelling : Category → String
  | type => "type"
  | struct => "struct"
  | group => "group"
  | enum => "enum"
  | command => "command"

/-- The categories in traversal order. -/
def all : List Category := [type, struct, group, enum, command]

end Category

/-- A definition. -/
inductive Element where
  | type (d : TypeDef)
  | struct (d : StructDef)
  | group (d : GroupDef)
  | enum (d : EnumDef)
  | command (d : CommandDef)
deriving DecidableEq, Repr, Inhabited

namespace Element

def category : Element → Category
  | type _ => .type
  | struct _ => .struct
  | group _ => .group
  | enum _ => .enum
  | command _ => .command

def name : Element → String
  | type d => d.name
  | struct d => d.name
  | group d => d.name
  | enum d => d.name
  | command d => d.name

/-- The definition that a definition re-exports. -/
def aliasOf : Element → Option String
  | type d => d.aliasOf
  | struct d => d.aliasOf
  | group d => d.aliasOf
  | enum d => d.aliasOf
  | command d => d.aliasOf

end Element

/-- A core version or an extension. -/
structure Feature where
  name : String
  kind : FeatureKind := .core
  /-- The number of an extension. -/
  number : Option UInt32 := none
  /-- The commands that the feature requires. -/
  require : List String := []
  elements : List Element := []
deriving DecidableEq, Repr, Inhabited

/-- A complete API description. -/
structure Schema where
  /-- The features in file order. -/
  features : List Feature := []
deriving DecidableEq, Repr, Inhabited

/-! ## Building definitions -/

namespace Feature

/-- The feature with one more definition; a command is also required. -/
def withElement (f : Feature) (e : Element) : Feature :=
  let require := match e with
    | .command d => f.require ++ [d.name]
    | _ => f.require
  { f with require, elements := f.elements ++ [e] }

/-- The definitions in traversal order: category by category, each in declaration order. -/
def orderedElements (f : Feature) : List Element :=
  Category.all.flatMap fun c => f.elements.filter fun e => e.category = c

end Feature

namespace Member

/-- A member passed by a pointer to constant data. -/
def constPointer (name typeName : String) : Member :=
  { name, typeName, pointer := 1, isConst := true }

def byPointer (name typeName : String) : Member := { name, typeName, pointer := 1 }

def isPointer (m : Member) : Bool := 0 < m.pointer

/-- The member's type as C writes it. -/
def spelling (m : Member) : String :=
  (if m.isConst then "const " else "") ++ m.typeName ++
    String.ofList (List.replicate m.pointer.toNat '*')

/-- The member's declaration in C. -/
def declaration (m : Member) : String := s!"{m.spelling} {m.name}"

end Member

namespace EnumValue

/-- A value placed in the block of an extension. -/
def ofExtension (name extension : String) (offset : UInt32) : EnumValue :=
  { name, extension := some extension, offset := some offset }

end EnumValue

namespace CommandDef

def parameterList (d : CommandDef) : String := ", ".intercalate (d.params.map (·.declaration))

def argumentList (d : CommandDef) : String := ", ".intercalate (d.params.map (·.name))

/-- The type of the first parameter, which decides the dispatch level. -/
def dispatchType? (d : CommandDef) : Option String := d.params.head?.map (·.typeName)

def returnsValue (d : CommandDef) : Bool := d.returnType ≠ "void"

end CommandDef

namespace Feature

/-! ## Traversal order -/

theorem mem_orderedElements {f : Feature} {e : Element} :
    e ∈ f.orderedElements ↔ e ∈ f.elements := by
  simp only [orderedElements, List.mem_flatMap, List.mem_filter, decide_eq_true_eq]
  constructor
  · rintro ⟨_, _, he, _⟩
    exact he
  · intro he
    refine ⟨e.category, ?_, he, rfl⟩
    cases e.category <;> decide

end Feature

end VulkanWire
