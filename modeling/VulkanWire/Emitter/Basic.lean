import VulkanWire.Registry

/-!
# Emitters

An emitter turns the steps of a traversal into C++ text for one module. It is
told of each step by a `Callback`, may consult the registry as it stands at
that step, and answers with an `Emission`: text for the module's header and for
its implementation. Emitters that have to remember something, such as the
commands seen so far, carry it in their own value.

## Main definitions

* `EmitterKind` — what feature restrictions select by.
* `Callback` — the steps of a traversal as an emitter sees them.
* `Emission` — text for the two files of a module.
* `Emitter` — the class of emitter types.
-/

namespace VulkanWire

/-- The kinds of emitters. -/
inductive EmitterKind where
  | extensionStructs
  | marshaling
  | deepCopy
  | transform
  | dispatch
  | functionTable
  | encoder
  | decoder
  | structureType
deriving DecidableEq, Repr, Inhabited

namespace EmitterKind

def all : List EmitterKind :=
  [extensionStructs, marshaling, deepCopy, transform, dispatch, functionTable, encoder, decoder,
    structureType]

/-- How configurations spell a kind. -/
def spelling : EmitterKind → String
  | extensionStructs => "extension_structs"
  | marshaling => "marshaling"
  | deepCopy => "deepcopy"
  | transform => "transform"
  | dispatch => "dispatch"
  | functionTable => "func_table"
  | encoder => "encoder"
  | decoder => "decoder"
  | structureType => "structure_type"

/-- The kind with a spelling. -/
def ofSpelling? (name : String) : Option EmitterKind := all.find? fun k => k.spelling = name

theorem mem_all (k : EmitterKind) : k ∈ all := by cases k <;> decide

/-- Every kind is found by its spelling. -/
theorem ofSpelling?_spelling (k : EmitterKind) : ofSpelling? k.spelling = some k := by
  cases k <;> decide

end EmitterKind

/-- A step of a traversal as an emitter sees it. -/
inductive Callback where
  | start
  /-- A feature that admits the emitter starts. -/
  | enterFeature (name : String) (kind : FeatureKind)
  /-- The feature just entered requires a command. -/
  | requireCommand (name : String)
  /-- The current feature introduces a definition. -/
  | element (e : Element)
  | leaveFeature
  | finish
deriving DecidableEq, Repr

/-- Text for the two files of a module. -/
structure Emission where
  header : String := ""
  implementation : String := ""
deriving DecidableEq, Repr, Inhabited

namespace Emission

def silent : Emission := {}

def inHeader (text : String) : Emission := { header := text }

def inImplementation (text : String) : Emission := { implementation := text }

def append (a b : Emission) : Emission :=
  ⟨a.header ++ b.header, a.implementation ++ b.implementation⟩

instance : Append Emission := ⟨append⟩

/-- Emissions one after the other. -/
def concat (es : List Emission) : Emission :=
  ⟨String.join (es.map (·.header)), String.join (es.map (·.implementation))⟩

end Emission

/-- Types whose values are emitters. -/
class Emitter (ε : Type) where
  /-- What feature restrictions select by. -/
  kind : ε → EmitterKind
  /-- The name in diagnostics. -/
  label : ε → String
  /-- The text for a step and the emitter after it. -/
  respond : Registry → Callback → ε → Emission × ε

/-- Lines of text, each ended by a line break. -/
def lines (ls : List String) : String := String.join (ls.map (· ++ "\n"))

/-- The number given to the first command; both sides of the protocol count from it. -/
def opcodeBase : Nat := 20000

end VulkanWire
