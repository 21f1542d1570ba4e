import VulkanWire.Toml.Scalar

/-!
# Reading TOML

A document is a sequence of lines: headers, which say what table the following
keys belong to, and keys with values. Values nest in arrays and inline tables
up to a bound; both may hold line breaks and comments between any two of their
parts, and may end in a comma. A key stays on one line and is bounded as well.

## Main definitions

* `Toml.parse?` — the entries of the document that a text holds.
-/

namespace VulkanWire.Toml

/-- How deeply arrays and inline tables may nest. -/
def nestingBound : Nat := 80

/-- How many pieces a key may have. -/
def keyBound : Nat := 80

/-! ## Blanks -/

/-- The text from its first character that is not blank. -/
def skipSpace (cs : List Char) : List Char := cs.dropWhile isSpace

/-- The text after blanks, line breaks and comments. -/
def skipLines (inComment : Bool) : List Char → Option (List Char)
  | '\n' :: rest => skipLines false rest
  | '\r' :: '\n' :: rest => skipLines false rest
  | c :: rest =>
    if inComment then if isForbidden c then none else skipLines true rest
    else if isSpace c then skipLines false rest
    else if c = '#' then skipLines true rest
    else some (c :: rest)
  | [] => some []

/-- The text at the end of a line, where at most a comment is left. -/
def endOfLine? (cs : List Char) : Option (List Char) :=
  match skipSpace cs with
  | '\n' :: rest => some rest
  | '\r' :: '\n' :: rest => some rest
  | '#' :: rest => some ('#' :: rest)
  | [] => some []
  | _ => none

/-! ## Keys -/

/-- Whether a character may stand in a key without quotes. -/
def isBareChar (c : Char) : Bool := c.isAlphanum || c = '_' || c = '-'

def readPiece (cs : List Char) : Option (String × List Char) :=
  match cs.span isBareChar with
  | ([], cs) => readQuoted cs
  | (piece, rest) => some (String.ofList piece, rest)

/-- Reads a key of at most so many pieces: those before the last, the last, and the text after
blanks. -/
def readKey : Nat → List Char → Option (List String × String × List Char)
  | 0, _ => none
  | pieces + 1, cs => do
    let (piece, rest) ← readPiece cs
    match skipSpace rest with
    | '.' :: rest =>
      let (path, key, rest) ← readKey pieces (skipSpace rest)
      return (piece :: path, key, rest)
    | rest => return ([], piece, rest)

/-! ## Values -/

mutual

/-- Reads a value that may nest so many levels deep. -/
def readValue : Nat → Nat → List Char → Option (Toml × List Char)
  | 0, _, _ => none
  | fuel + 1, levels, cs =>
    match cs, levels with
    | '[' :: _, 0 | '{' :: _, 0 => none
    | '[' :: rest, levels + 1 => do
      let (items, rest) ← readItems fuel levels rest
      return (.array false items, rest)
    | '{' :: rest, levels + 1 => do
      let (es, rest) ← readPairs fuel levels [] rest
      return (.table .inline es, rest)
    | '"' :: _, _ | '\'' :: _, _ => do
      let (s, rest) ← readQuotedValue cs
      return (.text s, rest)
    | _, _ => readScalar cs

/-- Reads the items of an array up to its closing bracket. -/
def readItems : Nat → Nat → List Char → Option (List Toml × List Char)
  | 0, _, _ => none
  | fuel + 1, levels, cs => do
    match ← skipLines false cs with
    | ']' :: rest => return ([], rest)
    | cs =>
      let (v, rest) ← readValue fuel levels cs
      match ← skipLines false rest with
      | ']' :: rest => return ([v], rest)
      | ',' :: rest =>
        let (vs, rest) ← readItems fuel levels rest
        return (v :: vs, rest)
      | _ => none

/-- Reads the pairs of an inline table up to its closing brace, given those before. -/
def readPairs : Nat → Nat → Entries → List Char → Option (Entries × List Char)
  | 0, _, _, _ => none
  | fuel + 1, levels, es, cs => do
    match ← skipLines false cs with
    | '}' :: rest => return (es, rest)
    | cs =>
      let (es, rest) ← readPair fuel levels es cs
      match ← skipLines false rest with
      | '}' :: rest => return (es, rest)
      | ',' :: rest => readPairs fuel levels es rest
      | _ => none

/-- Reads a key with its value and enters it into an inline table. -/
def readPair : Nat → Nat → Entries → List Char → Option (Entries × List Char)
  | 0, _, _, _ => none
  | fuel + 1, levels, es, cs => do
    let (path, key, rest) ← readKey keyBound cs
    let '=' :: rest ← skipLines false rest | none
    let (v, rest) ← readValue fuel levels (← skipLines false rest)
    return (← insertKey? path key v .inline es, rest)

end

/-! ## Documents -/

/-- A document as far as it has been read. -/
structure Draft where
  root : Entries
  /-- The path of the table that keys belong to. -/
  current : List String

/-- Reads a key with its value into the current table. -/
def readAssignment (fuel : Nat) (d : Draft) (cs : List Char) : Option (Draft × List Char) := do
  let (path, key, rest) ← readKey keyBound cs
  let '=' :: rest := rest | none
  let (v, rest) ← readValue fuel nestingBound (skipSpace rest)
  let root ← alter? .implied (insertKey? path key v) d.current .header d.root
  return ({ d with root }, rest)

/-- Reads a header after its opening brackets, up to the closing ones. -/
def readHeader (d : Draft) (ofArray : Bool) (cs : List Char) : Option (Draft × List Char) := do
  let (path, key, rest) ← readKey keyBound (skipSpace cs)
  let current := path ++ [key]
  match ofArray, rest with
  | true, ']' :: ']' :: rest => return (⟨← openElement? path key d.root, current⟩, rest)
  | false, ']' :: rest => return (⟨← openTable? path key d.root, current⟩, rest)
  | _, _ => none

def readLines : Nat → Draft → List Char → Option Entries
  | 0, _, _ => none
  | fuel + 1, d, cs => do
    let (d, rest) ← match ← skipLines false cs with
      | [] => return d.root
      | '[' :: '[' :: rest => readHeader d true rest
      | '[' :: rest => readHeader d false rest
      | cs => readAssignment fuel d cs
    readLines fuel d (← endOfLine? rest)

/-- The text without a byte order mark at its front. -/
def dropMark : List Char → List Char
  | '\uFEFF' :: rest => rest
  | cs => cs

/-- The entries of the document that a text holds. Every step of the reader uses up a character
within two calls, so twice the length is enough fuel. -/
def parse? (s : String) : Option Entries :=
  let cs := dropMark s.toList
  readLines (2 * cs.length + 2) ⟨[], []⟩ cs

end VulkanWire.Toml
