import VulkanWire.Emitter.Basic

/-!
# The feature gate

The gate decides which features generate code and through which emitters. A
feature is supported once it has been entered; a supported feature may be
restricted to a choice of emitter kinds. Types on the exception list are kept
in the registry even when their feature generates nothing.

## Main definitions

* `FeatureGate` — supported features, restrictions and exceptions.
* `FeatureGate.evaluate` — what the gate decides about a feature.
* `FeatureGate.restrict` — restricts a feature that is supported already.
-/

namespace VulkanWire

/-- What the gate decides about a feature. -/
structure FeatureDecision where
  supported : Bool
  /-- The kinds of emitters the feature is restricted to, if it is restricted. -/
  restriction : Option (List EmitterKind)
deriving DecidableEq, Repr

namespace FeatureDecision

/-- The decision about a feature that generates nothing. -/
def unsupported : FeatureDecision := ⟨false, none⟩

/-- Whether emitters of a kind process the feature. -/
def admits (d : FeatureDecision) (kind : EmitterKind) : Bool :=
  d.supported &&
    match d.restriction with
    | some kinds => kinds.contains kind
    | none => true

end FeatureDecision

/-- Which features generate code, and through which emitters. -/
structure FeatureGate where
  /-- The supported features in order of first entry. -/
  supported : List String := []
  /-- The last restriction of every restricted feature. -/
  restrictions : Ledger (List EmitterKind) := ∅
  /-- The types that are kept whatever their feature, in ascending order. -/
  exceptions : List String := []
deriving DecidableEq, Repr, Inhabited

/-- A restriction of a feature that is not supported. -/
structure UnsupportedRestriction where
  feature : String
deriving DecidableEq, Repr

namespace UnsupportedRestriction

def message (e : UnsupportedRestriction) : String :=
  s!"Wrapper restriction configured for unsupported feature '{e.feature}'"

end UnsupportedRestriction

/-- Enters a text into an ascending list, once. -/
def insertAscending (text : String) : List String → List String
  | [] => [text]
  | t :: rest =>
    if text = t then t :: rest
    else if text < t then text :: t :: rest
    else t :: insertAscending text rest

namespace FeatureGate

/-- Enters a feature as supported. -/
def addSupported (g : FeatureGate) (name : String) : FeatureGate :=
  if name ∈ g.supported then g else { g with supported := g.supported ++ [name] }

/-- The gate that supports the given features without restriction. -/
def ofSupported (names : List String) : FeatureGate := names.foldl addSupported {}

/-- Restricts a supported feature to emitters of some kinds. -/
def restrict (g : FeatureGate) (feature : String) (kinds : List EmitterKind) :
    Except UnsupportedRestriction FeatureGate :=
  if feature ∈ g.supported then
    .ok { g with restrictions := g.restrictions.insert feature kinds }
  else .error ⟨feature⟩

def withExceptions (g : FeatureGate) (names : List String) : FeatureGate :=
  { g with exceptions := names.foldl (fun acc n => insertAscending n acc) [] }

def isSupported (g : FeatureGate) (feature : String) : Bool := g.supported.contains feature

/-- Whether a type is kept whatever its feature. -/
def isException (g : FeatureGate) (name : String) : Bool := g.exceptions.contains name

/-- The kinds of emitters that a feature is restricted to. -/
def restriction? (g : FeatureGate) (feature : String) : Option (List EmitterKind) :=
  g.restrictions.find? feature

/-- What the gate decides about a feature. -/
def evaluate (g : FeatureGate) (feature : String) : FeatureDecision :=
  if feature ∈ g.supported then ⟨true, g.restriction? feature⟩ else .unsupported

/-! ## Decisions through changes -/

theorem mem_supported_addSupported (g : FeatureGate) (name other : String) :
    other ∈ (g.addSupported name).supported ↔ other = name ∨ other ∈ g.supported := by
  unfold addSupported
  split
  · rename_i h
    constructor
    · exact Or.inr
    · rintro (rfl | ho)
      · exact h
      · exact ho
  · simp [or_comm]

theorem supported_withExceptions (g : FeatureGate) (names : List String) :
    (g.withExceptions names).supported = g.supported := rfl

theorem restrictions_withExceptions (g : FeatureGate) (names : List String) :
    (g.withExceptions names).restrictions = g.restrictions := rfl

theorem supported_evaluate (g : FeatureGate) (feature : String) :
    (g.evaluate feature).supported = g.isSupported feature := by
  unfold evaluate isSupported
  by_cases h : feature ∈ g.supported
  · simp [h]
  · simp [h, FeatureDecision.unsupported]

end FeatureGate

end VulkanWire
