import VulkanWire.Json.Value

/-!
# Reading JSON

`Json.parse?` reads one document that fills a whole text. Blanks are the four
of the format, escapes in strings must be well formed, raw control characters
are refused, and numbers follow the format's grammar: no leading zeros, at
least one digit on either side of a point. The nesting of a document is not
limited here; consumers that limit it look at `Json.depth`.
-/

namespace VulkanWire.Json

/-- Whether a character is blank between tokens. -/
def isBlank (c : Char) : Bool := c = ' ' ∨ c = '\n' ∨ c = '\t' ∨ c = '\r'

/-- The text from its first character that is not blank. -/
def skipBlank (cs : List Char) : List Char := cs.dropWhile isBlank

/-! ## Strings -/

def hex4? (a b c d : Char) : Option Nat := do
  let a ← Decimal.digit? a
  let b ← Decimal.digit? b
  let c ← Decimal.digit? c
  let d ← Decimal.digit? d
  return ((a * 16 + b) * 16 + c) * 16 + d

/-- Whether a code unit opens a surrogate pair. -/
def isHighSurrogate (n : Nat) : Bool := 0xD800 ≤ n ∧ n < 0xDC00

/-- Whether a code unit closes a surrogate pair. -/
def isLowSurrogate (n : Nat) : Bool := 0xDC00 ≤ n ∧ n < 0xE000

/-- The character of a surrogate pair. -/
def joinSurrogates (high low : Nat) : Char :=
  Char.ofNat (0x10000 + (high - 0xD800) * 0x400 + (low - 0xDC00))

/-- The character that a backslash and one more character stand for. -/
def shortEscape? : Char → Option Char
  | '"' => some '"'
  | '\\' => some '\\'
  | '/' => some '/'
  | 'b' => some '\x08'
  | 'f' => some '\x0c'
  | 'n' => some '\n'
  | 'r' => some '\r'
  | 't' => some '\t'
  | _ => none

/-- Reads a string token after its opening quote. `done` holds the characters so far in reverse,
and `whole` is false once half a surrogate pair has been escaped. -/
def readString (done : List Char) (whole : Bool) : List Char → Option (Option String × List Char)
  | '"' :: rest => some (if whole then some (String.ofList done.reverse) else none, rest)
  | '\\' :: 'u' :: a :: b :: c :: d :: '\\' :: 'u' :: e :: f :: g :: h :: rest =>
    match hex4? a b c d with
    | none => none
    | some unit =>
      if isHighSurrogate unit then
        match hex4? e f g h with
        | none => none
        | some next =>
          if isLowSurrogate next then readString (joinSurrogates unit next :: done) whole rest
          else readString done false ('\\' :: 'u' :: e :: f :: g :: h :: rest)
      else if isLowSurrogate unit then
        readString done false ('\\' :: 'u' :: e :: f :: g :: h :: rest)
      else readString (Char.ofNat unit :: done) whole ('\\' :: 'u' :: e :: f :: g :: h :: rest)
  | '\\' :: 'u' :: a :: b :: c :: d :: rest =>
    match hex4? a b c d with
    | none => none
    | some unit =>
      if isHighSurrogate unit ∨ isLowSurrogate unit then readString done false rest
      else readString (Char.ofNat unit :: done) whole rest
  | '\\' :: c :: rest =>
    match shortEscape? c with
    | none => none
    | some c => readString (c :: done) whole rest
  | c :: rest => if c < ' ' then none else readString (c :: done) whole rest
  | [] => none

/-! ## Numbers -/

/-- Splits off the digits in front. -/
def spanDigits (cs : List Char) : List Char × List Char := cs.span Decimal.isDigit

/-- Reads an exponent after its letter. -/
def readExponent (cs : List Char) : Option (Int × List Char) :=
  let (negative, cs) : Bool × List Char :=
    match cs with
    | '+' :: rest => (false, rest)
    | '-' :: rest => (true, rest)
    | cs => (false, cs)
  match spanDigits cs with
  | ([], _) => none
  | (digits, rest) =>
    let n : Int := Decimal.value 10 digits
    some (if negative then -n else n, rest)

/-- Reads what may follow the whole part of a number: a fraction and an exponent. -/
def readTail (negative : Bool) (whole : List Char) (cs : List Char) :
    Option (Number × List Char) := do
  let (fraction, cs) ←
    match cs with
    | '.' :: rest =>
      match spanDigits rest with
      | ([], _) => none
      | (digits, rest) => some (digits, rest)
    | cs => some ([], cs)
  let mantissa := Decimal.value 10 (whole ++ fraction)
  let places := fraction.length
  match cs with
  | 'e' :: rest | 'E' :: rest =>
    let (exponent, rest) ← readExponent rest
    return (⟨negative, mantissa, places, exponent, false⟩, rest)
  | cs => return (⟨negative, mantissa, places, 0, fraction.isEmpty⟩, cs)

/-- Reads a number after its sign. -/
def readUnsigned (negative : Bool) (cs : List Char) : Option (Number × List Char) :=
  match spanDigits cs with
  | ([], _) => none
  | ('0' :: _ :: _, _) => none
  | (whole, rest) => readTail negative whole rest

def readNumber : List Char → Option (Number × List Char)
  | '-' :: rest => readUnsigned true rest
  | cs => readUnsigned false cs

/-! ## Documents -/

mutual

/-- Reads a document from the front of a text. -/
def readValue : Nat → List Char → Option (Json × List Char)
  | 0, _ => none
  | fuel + 1, cs =>
    match skipBlank cs with
    | '{' :: rest =>
      match skipBlank rest with
      | '}' :: rest => some (.object [], rest)
      | rest => do
        let (members, rest) ← readMembers fuel rest
        return (.object members, rest)
    | '[' :: rest =>
      match skipBlank rest with
      | ']' :: rest => some (.array [], rest)
      | rest => do
        let (items, rest) ← readItems fuel rest
        return (.array items, rest)
    | '"' :: rest => do
      let (s, rest) ← readString [] true rest
      return (.string s, rest)
    | 'n' :: 'u' :: 'l' :: 'l' :: rest => some (.null, rest)
    | 't' :: 'r' :: 'u' :: 'e' :: rest => some (.bool true, rest)
    | 'f' :: 'a' :: 'l' :: 's' :: 'e' :: rest => some (.bool false, rest)
    | cs => do
      let (n, rest) ← readNumber cs
      return (.number n, rest)

/-- Reads the items of an array up to its closing bracket. -/
def readItems : Nat → List Char → Option (List Json × List Char)
  | 0, _ => none
  | fuel + 1, cs => do
    let (v, rest) ← readValue fuel cs
    match skipBlank rest with
    | ']' :: rest => return ([v], rest)
    | ',' :: rest =>
      let (vs, rest) ← readItems fuel rest
      return (v :: vs, rest)
    | _ => none

/-- Reads the members of an object up to its closing brace. -/
def readMembers : Nat → List Char → Option (List (Option String × Json) × List Char)
  | 0, _ => none
  | fuel + 1, cs =>
    match skipBlank cs with
    | '"' :: rest => do
      let (name, rest) ← readString [] true rest
      match skipBlank rest with
      | ':' :: rest =>
        let (v, rest) ← readValue fuel rest
        match skipBlank rest with
        | '}' :: rest => return ([(name, v)], rest)
        | ',' :: rest =>
          let (ms, rest) ← readMembers fuel rest
          return ((name, v) :: ms, rest)
        | _ => none
      | _ => none
    | _ => none

end

/-- Reads the one document that a text holds. Every step of the reader uses up a character or is
followed by one that does, so twice the length is enough fuel. -/
def parse? (s : String) : Option Json :=
  let cs := s.toList
  match readValue (2 * cs.length + 2) cs with
  | some (v, rest) => if skipBlank rest = [] then some v else none
  | none => none

end VulkanWire.Json
