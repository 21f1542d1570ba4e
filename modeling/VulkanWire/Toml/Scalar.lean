import VulkanWire.Toml.Quoted
import VulkanWire.Toml.Value

/-!
# Unquoted TOML values

Truth values, numbers, dates and times are written without quotes. A blank may
stand between a date and a time, so all words up to the next mark of the
document, with the blanks between them, are cut off first and then read as a
whole.

## Main definitions

* `Toml.scalar?` — the value that a run of words spells.
* `Toml.readScalar` — cuts off a run and reads it.
-/

namespace VulkanWire.Toml

/-! ## Digits -/

/-- Whether every underscore stands between two digits. -/
def isGrouped (isDigit : Char → Bool) : List Char → Bool
  | [] => true
  | '_' :: _ => false
  | c :: '_' :: d :: rest => isDigit c && isDigit d && isGrouped isDigit (d :: rest)
  | _ :: rest => isGrouped isDigit rest

/-- The characters without the underscores among them. -/
def ungroup (cs : List Char) : List Char := cs.filter (· ≠ '_')

/-- Whether a minus sign stands in front of a number, and what follows its sign. -/
def splitSign : List Char → Bool × List Char
  | '+' :: rest => (false, rest)
  | '-' :: rest => (true, rest)
  | cs => (false, cs)

/-- The number that decimal digits spell behind a sign. -/
def signed (negative : Bool) (digits : List Char) : Int :=
  let n : Int := Decimal.value 10 digits
  if negative then -n else n

/-- Whether a character marks a number as a float. -/
def isFloatMark (c : Char) : Bool := c = '.' || c = 'e' || c = 'E'

/-! ## Numbers -/

/-- The integer that digits of a base spell. There may be none, which makes an integer without a
value. -/
def baseInteger? (base : Nat) (cs : List Char) : Option (Option Int) := do
  let isDigit c := (Decimal.digit? c).any (· < base)
  let digits := ungroup cs
  guard (digits.all isDigit && isGrouped isDigit cs)
  return if digits.isEmpty then none else some (Decimal.value base digits)

/-- The integer that a run spells in decimal digits. A group behind an underscore need only start, and
before the next one end, with a hexadecimal digit; what is not decimal in it, a tab included, makes an
integer without a value. -/
def decimalInteger? (cs : List Char) : Option (Option Int) := do
  let (negative, body) := splitSign cs
  let rest := body.dropWhile Decimal.isDigit
  guard (!body.isEmpty && (rest.isEmpty || rest.head? = some '_') && !rest.any isFloatMark && !rest.contains ' ')
  guard (body = ['0'] || body.head? ≠ some '0')
  guard (isGrouped (fun c => (Decimal.digit? c).isSome) body)
  let digits := ungroup body
  return if digits.all Decimal.isDigit then some (signed negative digits) else none

/-- The integer that a run spells. -/
def integer? : List Char → Option (Option Int)
  | '0' :: 'x' :: rest => baseInteger? 16 rest
  | '0' :: 'o' :: rest => baseInteger? 8 rest
  | '0' :: 'b' :: rest => baseInteger? 2 rest
  | cs => decimalInteger? cs

/-- The exponent of a float, which ends it; without the letter there is none. -/
def exponent? : List Char → Option Int
  | [] => some 0
  | c :: rest => do
    guard (c = 'e' || c = 'E')
    let (negative, digits) := splitSign rest
    guard (!digits.isEmpty && digits.all Decimal.isDigit)
    return signed negative digits

/-- Whether the float that a run spells is in range, if it spells one. -/
def float? (cs : List Char) : Option Bool := do
  let body := (splitSign cs).2
  if body = ['i', 'n', 'f'] ∨ body = ['n', 'a', 'n'] then return true
  guard (isGrouped Decimal.isDigit body)
  let (whole, rest) := (ungroup body).span Decimal.isDigit
  guard (!whole.isEmpty && (whole.length = 1 || whole.head? ≠ some '0'))
  let (fraction, rest) ← match rest with
    | '.' :: rest =>
      let (fraction, rest) := rest.span Decimal.isDigit
      if fraction.isEmpty then none else some (fraction, rest)
    | [] => none
    | rest => some ([], rest)
  let exponent ← exponent? rest
  return Decimal.isFinite (Decimal.value 10 (whole ++ fraction)) (exponent - fraction.length)

/-! ## Dates and times -/

/-- A number of exactly so many digits, and the rest. -/
def fixedDigits? (count : Nat) (cs : List Char) : Option (Nat × List Char) :=
  let digits := cs.take count
  if digits.length = count ∧ digits.all Decimal.isDigit then
    some (Decimal.value 10 digits, cs.drop count)
  else none

/-- A number of two digits within bounds, and the rest. -/
def twoDigits? (low high : Nat) (cs : List Char) : Option (Nat × List Char) := do
  let (n, rest) ← fixedDigits? 2 cs
  guard (low ≤ n ∧ n ≤ high)
  return (n, rest)

def isLeapYear (year : Nat) : Bool := (year % 4 = 0 ∧ year % 100 ≠ 0) ∨ year % 400 = 0

def monthLength (year month : Nat) : Nat :=
  if month = 2 then if isLeapYear year then 29 else 28
  else if month = 4 ∨ month = 6 ∨ month = 9 ∨ month = 11 then 30
  else 31

/-- What follows a date. -/
def afterDate? (cs : List Char) : Option (List Char) := do
  let (year, cs) ← fixedDigits? 4 cs
  let '-' :: cs := cs | none
  let (month, cs) ← twoDigits? 1 12 cs
  let '-' :: cs := cs | none
  let (_, cs) ← twoDigits? 1 (monthLength year month) cs
  return cs

/-- What follows the fraction of a second, if there is one. -/
def afterFraction? : List Char → Option (List Char)
  | '.' :: rest =>
    match rest.span Decimal.isDigit with
    | ([], _) => none
    | (_, rest) => some rest
  | cs => some cs

/-- What follows a time; the seconds may be left off. -/
def afterTime? (cs : List Char) : Option (List Char) := do
  let (_, cs) ← twoDigits? 0 23 cs
  let ':' :: cs := cs | none
  let (_, cs) ← twoDigits? 0 59 cs
  match cs with
  | ':' :: cs =>
    let (_, cs) ← twoDigits? 0 60 cs
    afterFraction? cs
  | cs => return cs

/-- Whether an offset from universal time, or nothing, is all there is. -/
def isOffset : List Char → Bool
  | [] => true
  | ['Z'] | ['z'] => true
  | '+' :: cs | '-' :: cs =>
    match twoDigits? 0 23 cs with
    | some (_, ':' :: cs) => (twoDigits? 0 59 cs).any (·.2 = [])
    | _ => false
  | _ => false

/-- Whether a run spells a date, a time or both. -/
def isMoment (cs : List Char) : Bool :=
  match afterDate? cs with
  | some [] => true
  | some (c :: rest) =>
    (c = 'T' ∨ c = 't' ∨ c = ' ') && (afterTime? rest).any isOffset
  | none => afterTime? cs = some []

/-! ## Runs -/

/-- The value that a run of words spells. -/
def scalar? (cs : List Char) : Option Toml :=
  if cs = ['t', 'r', 'u', 'e'] then some (.bool true)
  else if cs = ['f', 'a', 'l', 's', 'e'] then some (.bool false)
  else
    match integer? cs with
    | some n => some (.integer n)
    | none =>
      match float? cs with
      | some ok => some (.float ok)
      | none => if isMoment cs then some .moment else none

/-- The characters that end a word of an unquoted value. -/
def separators : List Char := [' ', '\t', '\n', '\r', '#', '=', ',', '[', ']', '{', '}']

/-- Whether a character may stand in a word of an unquoted value. -/
def isScalarChar (c : Char) : Bool := !separators.contains c

/-- Whether a further word may start with a character: a quote starts a string, and a dot no word. -/
def startsWord (c : Char) : Bool := isScalarChar c && c ≠ '.' && c ≠ '"' && c ≠ '\''

/-- Cuts off words with the blanks between them. `run` holds the words so far and `blanks` those
since the last word, both in reverse; blanks belong to the run only if a further word follows. -/
def spanWords (run blanks : List Char) : List Char → List Char × List Char
  | [] => (run.reverse, blanks.reverse)
  | c :: rest =>
    if isSpace c then spanWords run (c :: blanks) rest
    else if if blanks.isEmpty then isScalarChar c else startsWord c then
      spanWords (c :: (blanks ++ run)) [] rest
    else (run.reverse, blanks.reverse ++ c :: rest)

/-- Reads an unquoted value from the front of a text. -/
def readScalar (cs : List Char) : Option (Toml × List Char) :=
  let (run, rest) := spanWords [] [] cs
  (scalar? run).map (·, rest)

end VulkanWire.Toml
