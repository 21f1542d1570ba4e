import VulkanWire.Json.Value

/-!
# Writing JSON

`Json.render` writes a document without blanks. Control characters, quotes and
backslashes are escaped, by a letter where the format has one; everything else
stands for itself.
-/

namespace VulkanWire.Json

/-- The hexadecimal digit of a number below sixteen. -/
def hexDigit (n : Nat) : Char :=
  if n < 10 then Char.ofNat ('0'.toNat + n) else Char.ofNat ('a'.toNat + (n - 10))

/-- How a character is written inside a string. -/
def escape (c : Char) : List Char :=
  if c = '"' then ['\\', '"']
  else if c = '\\' then ['\\', '\\']
  else if c = '\n' then ['\\', 'n']
  else if c = '\r' then ['\\', 'r']
  else if c = '\t' then ['\\', 't']
  else if c = '\x08' then ['\\', 'b']
  else if c = '\x0c' then ['\\', 'f']
  else if c < ' ' then ['\\', 'u', '0', '0', hexDigit (c.toNat / 16), hexDigit (c.toNat % 16)]
  else [c]

def writeString (s : String) : List Char := '"' :: (s.toList.flatMap escape ++ ['"'])

def writeNumber (n : Number) : List Char :=
  let digits := Nat.toDigits 10 n.mantissa
  let sign := if n.negative then ['-'] else []
  let tail := if n.integral then [] else 'e' :: (toString (n.exponent - n.places)).toList
  sign ++ digits ++ tail

/-- A string token for a text, and half a surrogate pair for a token without one. -/
def writeToken : Option String → List Char
  | some s => writeString s
  | none => ['"', '\\', 'u', 'd', '8', '0', '0', '"']

mutual

def write : Json → List Char
  | .null => ['n', 'u', 'l', 'l']
  | .bool true => ['t', 'r', 'u', 'e']
  | .bool false => ['f', 'a', 'l', 's', 'e']
  | .number n => writeNumber n
  | .string s => writeToken s
  | .array [] => ['[', ']']
  | .array (v :: vs) => '[' :: (write v ++ writeItems vs)
  | .object [] => ['{', '}']
  | .object ((n, v) :: ms) => '{' :: (writeToken n ++ ':' :: (write v ++ writeMembers ms))

/-- The items after the first, with the closing bracket. -/
def writeItems : List Json → List Char
  | [] => [']']
  | v :: vs => ',' :: (write v ++ writeItems vs)

/-- The members after the first, with the closing brace. -/
def writeMembers : List (Option String × Json) → List Char
  | [] => ['}']
  | (n, v) :: ms => ',' :: (writeToken n ++ ':' :: (write v ++ writeMembers ms))

end

def render (v : Json) : String := String.ofList v.write

end VulkanWire.Json
