import VulkanWire.Decimal

/-!
# Quoted TOML strings

Strings stand between double quotes, where a backslash escapes, or between
single quotes, where nothing does. Three quotes open a string that may span
lines: a line break right after them is dropped, and up to two quotes may stand
in front of the closing three. Control characters other than the tab are
refused everywhere, and so is a carriage return that no line feed follows.

## Main definitions

* `Toml.readQuoted` — a string on one line.
* `Toml.readQuotedValue` — a string that may span lines.
-/

namespace VulkanWire.Toml

/-- Whether a character is refused in strings and comments. -/
def isForbidden (c : Char) : Bool := (c < ' ' && c ≠ '\t') || c = '\x7f'

/-- Whether a character is blank within a line. -/
def isSpace (c : Char) : Bool := c = ' ' ∨ c = '\t'

/-- The character with a number, if there is one. -/
def scalarValue? (n : Nat) : Option Char := if n.isValidChar then some (Char.ofNat n) else none

/-- The character that hexadecimal digits spell. -/
def hexChar? (digits : List Char) : Option Char :=
  if digits.all fun c => (Decimal.digit? c).isSome then scalarValue? (Decimal.value 16 digits)
  else none

/-- The character that a backslash and one more character stand for. -/
def letterEscape? : Char → Option Char
  | '"' => some '"'
  | '\\' => some '\\'
  | 'b' => some '\x08'
  | 'e' => some '\x1b'
  | 'f' => some '\x0c'
  | 'n' => some '\n'
  | 'r' => some '\r'
  | 't' => some '\t'
  | _ => none

/-- Whether only blanks stand before the next line break. -/
def endsLine : List Char → Bool
  | '\n' :: _ => true
  | '\r' :: '\n' :: _ => true
  | c :: rest => isSpace c && endsLine rest
  | [] => false

/-- Reads a string between double quotes after the opening ones. `done` holds the characters so far
in reverse. In a string that spans lines, `trim` says that an escaped line break has been met and
only blanks since. -/
def readEscaped (spans : Bool) (done : List Char) (trim : Bool) :
    List Char → Option (String × List Char)
  | '\\' :: 'x' :: a :: b :: rest =>
    match hexChar? [a, b] with
    | some c => readEscaped spans (c :: done) false rest
    | none => none
  | '\\' :: 'u' :: a :: b :: c :: d :: rest =>
    match hexChar? [a, b, c, d] with
    | some c => readEscaped spans (c :: done) false rest
    | none => none
  | '\\' :: 'U' :: a :: b :: c :: d :: e :: f :: g :: h :: rest =>
    match hexChar? [a, b, c, d, e, f, g, h] with
    | some c => readEscaped spans (c :: done) false rest
    | none => none
  | '\\' :: c :: rest =>
    match letterEscape? c with
    | some c => readEscaped spans (c :: done) false rest
    | none =>
      if spans && endsLine (c :: rest) then
        if c = '\r' then
          match rest with
          | _ :: rest => readEscaped spans done true rest
          | [] => none
        else readEscaped spans done true rest
      else none
  | '"' :: '"' :: '"' :: '"' :: '"' :: rest =>
    if spans then some (String.ofList ('"' :: '"' :: done).reverse, rest)
    else some (String.ofList done.reverse, '"' :: '"' :: '"' :: '"' :: rest)
  | '"' :: '"' :: '"' :: '"' :: rest =>
    if spans then some (String.ofList ('"' :: done).reverse, rest)
    else some (String.ofList done.reverse, '"' :: '"' :: '"' :: rest)
  | '"' :: '"' :: '"' :: rest =>
    if spans then some (String.ofList done.reverse, rest)
    else some (String.ofList done.reverse, '"' :: '"' :: rest)
  | '"' :: rest =>
    if spans then readEscaped spans ('"' :: done) false rest
    else some (String.ofList done.reverse, rest)
  | '\r' :: '\n' :: rest =>
    if spans then readEscaped spans (if trim then done else '\n' :: '\r' :: done) trim rest
    else none
  | c :: rest =>
    if c = '\n' then
      if spans then readEscaped spans (if trim then done else c :: done) trim rest else none
    else if isForbidden c then none
    else if trim && isSpace c then readEscaped spans done true rest
    else readEscaped spans (c :: done) false rest
  | [] => none

/-- Reads a string between single quotes after the opening ones. -/
def readLiteral (spans : Bool) (done : List Char) : List Char → Option (String × List Char)
  | '\'' :: '\'' :: '\'' :: '\'' :: '\'' :: rest =>
    if spans then some (String.ofList ('\'' :: '\'' :: done).reverse, rest)
    else some (String.ofList done.reverse, '\'' :: '\'' :: '\'' :: '\'' :: rest)
  | '\'' :: '\'' :: '\'' :: '\'' :: rest =>
    if spans then some (String.ofList ('\'' :: done).reverse, rest)
    else some (String.ofList done.reverse, '\'' :: '\'' :: '\'' :: rest)
  | '\'' :: '\'' :: '\'' :: rest =>
    if spans then some (String.ofList done.reverse, rest)
    else some (String.ofList done.reverse, '\'' :: '\'' :: rest)
  | '\'' :: rest =>
    if spans then readLiteral spans ('\'' :: done) rest
    else some (String.ofList done.reverse, rest)
  | '\r' :: '\n' :: rest =>
    if spans then readLiteral spans ('\n' :: '\r' :: done) rest else none
  | c :: rest =>
    if c = '\n' then if spans then readLiteral spans (c :: done) rest else none
    else if isForbidden c then none
    else readLiteral spans (c :: done) rest
  | [] => none

/-- The text without a line break at its very front. -/
def dropBreak : List Char → List Char
  | '\n' :: rest => rest
  | '\r' :: '\n' :: rest => rest
  | cs => cs

/-- Reads a string on one line, if a quote stands in front. -/
def readQuoted : List Char → Option (String × List Char)
  | '"' :: rest => readEscaped false [] false rest
  | '\'' :: rest => readLiteral false [] rest
  | _ => none

/-- Reads a string that may span lines, if a quote stands in front. -/
def readQuotedValue : List Char → Option (String × List Char)
  | '"' :: '"' :: '"' :: rest => readEscaped true [] false (dropBreak rest)
  | '\'' :: '\'' :: '\'' :: rest => readLiteral true [] (dropBreak rest)
  | cs => readQuoted cs

end VulkanWire.Toml
