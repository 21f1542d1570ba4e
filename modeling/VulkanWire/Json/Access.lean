import VulkanWire.Json.Value

/-!
# Looking into JSON documents

Short ways to what an object says under a name, for readers of loosely
structured documents: a member that is `null` says nothing, and so does one of
the wrong shape.
-/

namespace VulkanWire.Json

/-- The first member of an object with a name. -/
def member? (v : Json) (name : String) : Option Json :=
  match v with
  | .object members => (members.find? fun (n, _) => n = some name).map (·.2)
  | _ => none

/-- The first member with a name, unless it is null. -/
def given? (v : Json) (name : String) : Option Json :=
  match v.member? name with
  | some .null => none
  | found => found

def textAt? (v : Json) (name : String) : Option String := (v.given? name).bind toText?

/-- The truth value of a member, with a default. -/
def boolAt (v : Json) (name : String) (default : Bool) : Bool :=
  ((v.given? name).bind toBool?).getD default

def intAt? (v : Json) (name : String) : Option Int := (v.given? name).bind toInt?

/-- The natural number of a member, if it fits 64 bits. -/
def natAt? (v : Json) (name : String) : Option Nat := do
  let n ← v.intAt? name
  if 0 ≤ n ∧ n < UInt64.size then some n.toNat else none

/-- The natural number of a member, zero if there is none. -/
def natAt (v : Json) (name : String) : Nat := (v.natAt? name).getD 0

def itemsAt? (v : Json) (name : String) : Option (List Json) := (v.given? name).bind toItems?

/-- The items of a member, none if there is no array. -/
def itemsAt (v : Json) (name : String) : List Json := (v.itemsAt? name).getD []

/-- The texts among the items of a member. -/
def textsAt (v : Json) (name : String) : List String := (v.itemsAt name).filterMap toText?

mutual

/-- The document in which only the last of the members with one name is left. -/
def withoutRepeats : Json → Json
  | .array items => .array (itemsWithoutRepeats items)
  | .object members => .object (membersWithoutRepeats members)
  | v => v

def itemsWithoutRepeats : List Json → List Json
  | [] => []
  | v :: rest => v.withoutRepeats :: itemsWithoutRepeats rest

/-- The members, each name once. -/
def membersWithoutRepeats : List (Option String × Json) → List (Option String × Json)
  | [] => []
  | (n, v) :: rest =>
    if rest.any fun (other, _) => other = n then membersWithoutRepeats rest
    else (n, v.withoutRepeats) :: membersWithoutRepeats rest

end

mutual

/-- The document with every string value changed. -/
def mapTexts (f : String → String) : Json → Json
  | .string s => .string (s.map f)
  | .array items => .array (mapItemTexts f items)
  | .object members => .object (mapMemberTexts f members)
  | v => v

def mapItemTexts (f : String → String) : List Json → List Json
  | [] => []
  | v :: rest => v.mapTexts f :: mapItemTexts f rest

def mapMemberTexts (f : String → String) :
    List (Option String × Json) → List (Option String × Json)
  | [] => []
  | (n, v) :: rest => (n, v.mapTexts f) :: mapMemberTexts f rest

end

end VulkanWire.Json
