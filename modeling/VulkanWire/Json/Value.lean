import VulkanWire.Decimal

/-!
# JSON documents

A document keeps what a reader of typed data has to know: numbers with their
digits and exponent and whether they were written as plain integers, members
in order with repetitions, and string tokens that have no text because they
escape half of a surrogate pair. Such a token is harmless in a part of a
document that is skipped and an error anywhere else.

## Main definitions

* `Json` — a document.
* `Json.isPlain` — every string token is text and every number becomes a finite
  float.
* `Json.depth` — how deeply arrays and objects are nested.
-/

namespace VulkanWire

/-- A number token. -/
structure Json.Number where
  /-- Whether the token starts with a minus sign. -/
  negative : Bool
  /-- All digits before the exponent, read as one number. -/
  mantissa : Nat
  /-- How many of these digits follow the point. -/
  places : Nat
  /-- The exponent as it is written. -/
  exponent : Int
  /-- Whether the token has neither a fraction nor an exponent. -/
  integral : Bool
deriving DecidableEq, Repr

/-- A JSON document. A string token without text is `none`. -/
inductive Json where
  | null
  | bool (value : Bool)
  | number (value : Json.Number)
  | string (value : Option String)
  | array (items : List Json)
  | object (members : List (Option String × Json))
deriving Repr, Inhabited

namespace Json

/-- The number token of an integer. -/
def Number.ofInt (n : Int) : Number := ⟨n < 0, n.natAbs, 0, 0, true⟩

/-- The integer a token stands for; a negative zero is no integer. -/
def Number.toInt? (n : Number) : Option Int :=
  if n.integral then
    if n.negative then if n.mantissa = 0 then none else some (-(n.mantissa : Int))
    else some n.mantissa
  else none

/-- The leading digits of a token that fit 64 bits, and the power of ten that scales them. Whole digits
that do not fit raise the power, and those behind the point are dropped; each of the two parts is
read until its first digit that does not fit. -/
def Number.significand (n : Number) : Nat × Int :=
  let unit := Nat.pow 10 n.places
  let (whole, raised) := Decimal.leadingWord (n.mantissa / unit)
  let (kept, dropped) := Decimal.leadingWord (whole * unit + n.mantissa % unit)
  (kept, n.exponent + raised + dropped - n.places)

def Number.isFinite (n : Number) : Bool :=
  let (mantissa, exponent) := n.significand
  Decimal.isFiniteProduct mantissa exponent

def text (s : String) : Json := .string (some s)

def int (n : Int) : Json := .number (.ofInt n)

/-- An object whose members all have proper names. -/
def record (members : List (String × Json)) : Json :=
  .object (members.map fun (n, v) => (some n, v))

def toInt? : Json → Option Int
  | .number n => n.toInt?
  | _ => none

def toText? : Json → Option String
  | .string s => s
  | _ => none

def toBool? : Json → Option Bool
  | .bool b => some b
  | _ => none

def toItems? : Json → Option (List Json)
  | .array items => some items
  | _ => none

mutual

/-- How deeply arrays and objects are nested. -/
def depth : Json → Nat
  | .array items => itemsDepth items + 1
  | .object members => membersDepth members + 1
  | _ => 0

def itemsDepth : List Json → Nat
  | [] => 0
  | v :: rest => max v.depth (itemsDepth rest)

def membersDepth : List (Option String × Json) → Nat
  | [] => 0
  | (_, v) :: rest => max v.depth (membersDepth rest)

end

mutual

/-- Whether every string token is text and every number becomes a finite float. -/
def isPlain : Json → Bool
  | .number n => n.isFinite
  | .string s => s.isSome
  | .array items => itemsPlain items
  | .object members => membersPlain members
  | _ => true

def itemsPlain : List Json → Bool
  | [] => true
  | v :: rest => v.isPlain && itemsPlain rest

def membersPlain : List (Option String × Json) → Bool
  | [] => true
  | (n, v) :: rest => n.isSome && v.isPlain && membersPlain rest

end

theorem Number.toInt?_ofInt (n : Int) : (Number.ofInt n).toInt? = some n := by
  simp only [Number.ofInt, Number.toInt?, if_true]
  by_cases h : n < 0
  · have : n.natAbs ≠ 0 := by omega
    simp only [h, decide_true, if_true, this, if_false, Option.some.injEq]
    omega
  · simp only [h, decide_false, Bool.false_eq_true, if_false, Option.some.injEq]
    omega

@[simp] theorem toInt?_int (n : Int) : (int n).toInt? = some n := Number.toInt?_ofInt n

@[simp] theorem toText?_text (s : String) : (text s).toText? = some s := rfl

end Json

end VulkanWire
