import VulkanWire.Ledger
import VulkanWire.Schema.Basic

/-!
# The registry of definitions

The registry collects every definition of a traversal together with the
feature that introduced it. A later definition of a name replaces the earlier
one but keeps its place. A definition with an alias also leaves an alias link
behind, and such a link stays when the name is defined again without one.

Alias chains and parent chains may be cyclic in a malformed schema, so every
walk along them is bounded: eight alias links, sixteen handles, and structs
nested seventeen deep.

## Main definitions

* `Registry.record` — enters a definition.
* `Registry.resolveAlias` — the name at the end of an alias chain.
* `Registry.isDeviceLevelHandle`, `Registry.structHasHandles` — what emitters
  decide by.
-/

namespace VulkanWire

/-- A definition with the feature that introduced it. -/
structure Record where
  definition : Element
  feature : Option String
deriving DecidableEq, Repr

/-- Every definition seen during a traversal. -/
structure Registry where
  /-- The last record of every name. -/
  records : Ledger Record := ∅
  /-- The last alias target of every name that ever had one. -/
  aliases : Ledger String := ∅
  /-- The feature being traversed. -/
  current : Option (String × FeatureKind) := none
  /-- The kind of every feature entered. -/
  featureKinds : Ledger FeatureKind := ∅
  /-- The feature that introduced each command last. -/
  commandFeatures : Ledger String := ∅
  finished : Bool := false
deriving DecidableEq, Repr, Inhabited

namespace Registry

/-! ## Recording -/

def beginFeature (r : Registry) (name : String) (kind : FeatureKind) : Registry :=
  { r with featureKinds := r.featureKinds.insert name kind, current := some (name, kind) }

def endFeature (r : Registry) : Registry := { r with current := none }

def finish (r : Registry) : Registry := { r with finished := true }

def currentFeature? (r : Registry) : Option String := r.current.map (·.1)

def currentKind? (r : Registry) : Option FeatureKind := r.current.map (·.2)

/-- Enters a definition under a given feature. -/
def recordUnder (r : Registry) (feature : Option String) (e : Element) : Registry :=
  { r with
    aliases := match e.aliasOf with
      | some target => r.aliases.insert e.name target
      | none => r.aliases
    records := r.records.insert e.name ⟨e, feature⟩ }

/-- Enters a command's feature, if there is one. -/
def noteCommand (r : Registry) (e : Element) : Registry :=
  match e, r.currentFeature? with
  | .command d, some feature =>
    { r with commandFeatures := r.commandFeatures.insert d.name feature }
  | _, _ => r

/-- Enters a definition under the current feature. -/
def record (r : Registry) (e : Element) : Registry :=
  (r.noteCommand e).recordUnder r.currentFeature? e

/-! ## Look-up -/

/-- The names in order of first entry. -/
def names (r : Registry) : List String := r.records.names

def size (r : Registry) : Nat := r.records.size

def isEmpty (r : Registry) : Bool := r.records.entries.isEmpty

/-- The last record of a name. -/
def find? (r : Registry) (name : String) : Option Record := r.records.find? name

/-- The last definition of a name. -/
def definition? (r : Registry) (name : String) : Option Element :=
  (r.find? name).map (·.definition)

def contains (r : Registry) (name : String) : Bool := r.records.contains name

/-- The feature of the last record of a name. -/
def featureOf? (r : Registry) (name : String) : Option String :=
  (r.find? name).bind (·.feature)

/-- The feature that introduced a command last. -/
def commandFeature? (r : Registry) (name : String) : Option String := r.commandFeatures.find? name

/-- The kind of a feature entered so far. -/
def featureKind? (r : Registry) (name : String) : Option FeatureKind := r.featureKinds.find? name

/-! ## Alias chains -/

/-- The greatest number of alias links that a resolution follows. -/
def aliasBound : Nat := 8

/-- The name reached from a name along alias links, at most so many of them. -/
def followAlias (r : Registry) : Nat → String → String
  | 0, name => name
  | n + 1, name =>
    match r.aliases.find? name with
    | some target => r.followAlias n target
    | none => name

/-- The name at the end of an alias chain. -/
def resolveAlias (r : Registry) (name : String) : String := r.followAlias aliasBound name

/-- The definition of a name, aliases resolved. -/
def resolved? (r : Registry) (name : String) : Option Element :=
  r.definition? (r.resolveAlias name)

def struct? (r : Registry) (name : String) : Option StructDef :=
  match r.resolved? name with
  | some (.struct d) => some d
  | _ => none

def command? (r : Registry) (name : String) : Option CommandDef :=
  match r.resolved? name with
  | some (.command d) => some d
  | _ => none

def isStruct (r : Registry) (name : String) : Bool := (r.struct? name).isSome

/-- Whether a name stands for a handle type. -/
def isHandle (r : Registry) (name : String) : Bool :=
  match r.resolved? name with
  | some (.type d) => d.kind = .handle
  | _ => false

/-! ## Handle chains -/

/-- The handle from which every device-level handle descends. -/
def deviceHandle : String := "VkDevice"

/-- The greatest number of handles that a search for the device looks at. -/
def handleBound : Nat := 16

/-- The name of the handle above a handle, aliases resolved. -/
def parentHandle? (r : Registry) (name : String) : Option String :=
  match r.definition? name with
  | some (.type d) => if d.kind = .handle then d.parent.map r.resolveAlias else none
  | _ => none

/-- Whether the device is among the first handles of a parent chain. -/
def reachesDevice (r : Registry) : Nat → String → Bool
  | 0, _ => false
  | n + 1, name =>
    if name = deviceHandle then true
    else match r.parentHandle? name with
      | some parent => r.reachesDevice n parent
      | none => false

/-- Whether a handle is the device or descends from it. -/
def isDeviceLevelHandle (r : Registry) (name : String) : Bool :=
  r.reachesDevice handleBound (r.resolveAlias name)

/-! ## Handles inside structs -/

/-- The greatest number of structs on a path to a handle member. -/
def nestingBound : Nat := 17

/-- Whether a struct holds a handle within so many levels of nesting. -/
def hasHandlesWithin (r : Registry) : Nat → String → Bool
  | 0, _ => false
  | n + 1, name =>
    match r.struct? name with
    | some d => d.members.any fun m => r.isHandle m.typeName || r.hasHandlesWithin n m.typeName
    | none => false

/-- Whether a struct holds a handle, directly or inside other structs. -/
def structHasHandles (r : Registry) (name : String) : Bool := r.hasHandlesWithin nestingBound name

/-! ## Names without a link -/

theorem followAlias_of_unlinked {r : Registry} {name : String} (h : r.aliases.find? name = none)
    (n : Nat) : r.followAlias n name = name := by
  cases n with
  | zero => rfl
  | succ n => rw [followAlias, h]

/-- A name without a link stands for itself. -/
theorem resolveAlias_of_unlinked {r : Registry} {name : String}
    (h : r.aliases.find? name = none) : r.resolveAlias name = name :=
  followAlias_of_unlinked h aliasBound

/-! ## Look-up through recording -/

/-- The last recording of a name decides what is found under it. -/
theorem find?_recordUnder (r : Registry) (feature : Option String) (e : Element) (name : String) :
    (r.recordUnder feature e).find? name =
      if e.name = name then some ⟨e, feature⟩ else r.find? name := by
  simp [recordUnder, find?, Ledger.find?_insert]

@[simp] theorem records_noteCommand (r : Registry) (e : Element) :
    (r.noteCommand e).records = r.records := by
  unfold noteCommand
  split <;> rfl

theorem find?_record (r : Registry) (e : Element) (name : String) :
    (r.record e).find? name =
      if e.name = name then some ⟨e, r.currentFeature?⟩ else r.find? name := by
  rw [record, find?_recordUnder]
  simp [find?]

end Registry

end VulkanWire
