/-!
# TOML documents

A document is a table of named values. While it is being read, every table
remembers how it came to be, because that decides what later lines may add to
it: a table may be opened by a header once, dotted keys may add only to tables
that nothing has opened, and inline tables are complete where they stand.

## Main definitions

* `Toml` — a value.
* `Toml.insertKey?` — a key with its value, as a line or an inline table gives it.
* `Toml.openTable?`, `Toml.openElement?` — headers of tables and of array elements.
-/

namespace VulkanWire

/-- How a table came to be. -/
inductive TableForm where
  /-- By its own header, or as the document itself. -/
  | header
  /-- By a longer header. -/
  | implied
  /-- By a dotted key. -/
  | dotted
  /-- Between braces. -/
  | inline
deriving DecidableEq, Repr

/-- A TOML value. -/
inductive Toml where
  | text (value : String)
  /-- An integer, without a value where its digits spell none. -/
  | integer (value : Option Int)
  /-- A float, infinite only where it is spelled so. -/
  | float (inRange : Bool)
  | bool (value : Bool)
  /-- A date, a time or both. -/
  | moment
  /-- An array, between brackets or of tables with headers of their own. -/
  | array (ofTables : Bool) (items : List Toml)
  | table (form : TableForm) (entries : List (String × Toml))
deriving Repr, Inhabited

namespace TableForm

/-- Whether a table of one form lets a path of another form lead into it. -/
def admits (own path : TableForm) : Bool :=
  match own with
  | inline => false
  | header => path ≠ dotted
  | implied | dotted => true

end TableForm

namespace Toml

/-- The entries of a table. -/
abbrev Entries := List (String × Toml)

/-! ## Ranges -/

/-- Whether an integer fits the widest machine integers, signed or unsigned. -/
def integerInRange (n : Int) : Bool := -Int.pow 2 127 ≤ n ∧ n < Int.pow 2 128

mutual

/-- Whether every number in a value has a value in range. -/
def inRange : Toml → Bool
  | integer n => n.any integerInRange
  | float ok => ok
  | array _ items => itemsInRange items
  | table _ es => entriesInRange es
  | _ => true

/-- Whether every number in a list of values has a value in range. -/
def itemsInRange : List Toml → Bool
  | [] => true
  | v :: rest => v.inRange && itemsInRange rest

/-- Whether every number in a list of entries has a value in range. -/
def entriesInRange : List (String × Toml) → Bool
  | [] => true
  | (_, v) :: rest => v.inRange && entriesInRange rest

end

/-! ## Changing tables -/

/-- Replaces the value of a key that is there. -/
def assign (key : String) (v : Toml) : Entries → Entries
  | [] => []
  | (k, w) :: rest => if k = key then (k, v) :: rest else (k, w) :: assign key v rest

/-- Changes the last table of an array. -/
def alterLast? (change : TableForm → Entries → Option Entries) : List Toml → Option (List Toml)
  | [] => none
  | [.table own es] => do return [.table own (← change own es)]
  | v :: rest => do return v :: (← alterLast? change rest)

/-- Changes the table that a path leads to from a table of a given form. Tables that are missing on
the way are created, and an array of tables leads to its last one. -/
def alter? (form : TableForm) (change : TableForm → Entries → Option Entries) :
    List String → TableForm → Entries → Option Entries
  | [], own, es => change own es
  | k :: path, _, es =>
    match es.lookup k with
    | none => do
      let inner ← alter? form change path form []
      return es ++ [(k, .table form inner)]
    | some (.table own inner) =>
      if own.admits form then do
        let inner ← alter? form change path own inner
        return assign k (.table own inner) es
      else none
    | some (.array true items) => do
      let items ← alterLast? (alter? form change path) items
      return assign k (.array true items) es
    | some _ => none

/-- Enters a value under a new key. A dotted key ends in a table of dotted keys, a plain one never
does. -/
def enter? (dotted : Bool) (key : String) (v : Toml) (own : TableForm) (es : Entries) :
    Option Entries :=
  if decide (own = .dotted) ≠ dotted then none
  else if (es.lookup key).isSome then none
  else some (es ++ [(key, v)])

/-- A key with its value, as a line or an inline table gives it. -/
def insertKey? (path : List String) (key : String) (v : Toml) : TableForm → Entries → Option Entries :=
  alter? .dotted (enter? (!path.isEmpty) key v) path

/-- The header of a table. -/
def openTable? (path : List String) (key : String) (root : Entries) : Option Entries :=
  alter? .implied (fun _ es =>
    match es.lookup key with
    | none => some (es ++ [(key, .table .header [])])
    | some (.table .implied inner) => some (assign key (.table .header inner) es)
    | some _ => none) path .header root

/-- The header of a further table in an array. -/
def openElement? (path : List String) (key : String) (root : Entries) : Option Entries :=
  alter? .implied (fun _ es =>
    match es.lookup key with
    | none => some (es ++ [(key, .array true [.table .header []])])
    | some (.array true items) =>
      some (assign key (.array true (items ++ [.table .header []])) es)
    | some _ => none) path .header root

end Toml

end VulkanWire
