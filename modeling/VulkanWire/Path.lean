/-!
# File paths

A `Path` keeps the text it was written in; everything else is read off its
components. The slash separates components, repeated slashes and inner or
trailing single dots say nothing, a leading single dot and every double dot
count, and an absolute path starts with the root as a component of its own.
Paths whose bytes are no text are left out.

## Main definitions

* `Path.components` — what a path names, step by step.
* `Path.join` — a path seen from a directory; an absolute one stands alone.
* `Path.parent?` — the path without its last component, in its own spelling.
* `Path.relativeTo?` — the components left once a base has been stripped.
-/

namespace VulkanWire

/-- A file path, kept as the text it was written in. -/
structure Path where
  text : String
deriving DecidableEq, Repr, Inhabited

namespace Path

instance : Coe String Path := ⟨Path.mk⟩

/-- One step of a path. -/
inductive Component where
  /-- The root directory, first in every absolute path. -/
  | root
  /-- The directory itself, kept only at the front of a relative path. -/
  | here
  | up
  | name (text : String)
deriving DecidableEq, Repr

namespace Component

def text : Component → String
  | .root => "/"
  | .here => "."
  | .up => ".."
  | .name text => text

/-- The place of a component's kind in the order of paths. -/
def rank : Component → Nat
  | .root => 0
  | .here => 1
  | .up => 2
  | .name _ => 3

/-- Components are ordered by kind and names among themselves by their characters. -/
def lt (a b : Component) : Bool :=
  match a, b with
  | .name s, .name t => s < t
  | a, b => a.rank < b.rank

end Component

/-- The pieces between slashes, empty ones included. -/
def segments : List Char → List (List Char)
  | [] => [[]]
  | c :: rest =>
    if c = '/' then [] :: segments rest
    else
      match segments rest with
      | [] => [[c]]
      | piece :: pieces => (c :: piece) :: pieces

/-- Whether a piece between slashes says nothing: it is empty or a single dot. -/
def isSilent (piece : List Char) : Bool := piece = [] ∨ piece = ['.']

def isAbsolute (p : Path) : Bool := p.text.toList.head? = some '/'

/-- The text that a path opens with before its pieces, with the component it stands for: the root,
a leading single dot, or nothing. -/
def opening (cs : List Char) : List Char × List Component × List Char :=
  match cs with
  | '/' :: rest => (['/'], [.root], rest)
  | ['.'] => (['.'], [.here], [])
  | '.' :: '/' :: rest => (['.'], [.here], '/' :: rest)
  | cs => ([], [], cs)

/-- The component a piece between slashes stands for, if it says anything. -/
def component? (piece : List Char) : Option Component :=
  if isSilent piece then none
  else if piece = ['.', '.'] then some .up
  else some (.name (String.ofList piece))

/-- What a path names, step by step. -/
def components (p : Path) : List Component :=
  match opening p.text.toList with
  | (_, first, body) => first ++ (segments body).filterMap component?

/-- A path seen from a directory: an absolute path stands alone, any other is appended after a
single slash. -/
def join (base right : Path) : Path :=
  if right.isAbsolute then right
  else if base.text = "" ∨ base.text.toList.getLast? = some '/' then ⟨base.text ++ right.text⟩
  else ⟨base.text ++ "/" ++ right.text⟩

/-- Pieces written one after the other with slashes between them. -/
def unsegments : List (List Char) → List Char
  | [] => []
  | [piece] => piece
  | piece :: pieces => piece ++ '/' :: unsegments pieces

/-- The path without its last component, in its own spelling; the root and the empty path have no
parent. -/
def parent? (p : Path) : Option Path :=
  match opening p.text.toList with
  | (head, first, body) =>
    match (segments body).reverse.dropWhile isSilent with
    | _ :: earlier =>
      some ⟨String.ofList (head ++ unsegments (earlier.dropWhile isSilent).reverse)⟩
    | [] => if first = [.here] then some ⟨""⟩ else none

/-- Strips one list of components from the front of another. -/
def stripComponents? : List Component → List Component → Option (List Component)
  | [], rest => some rest
  | _ :: _, [] => none
  | b :: base, c :: rest => if b = c then stripComponents? base rest else none

/-- The components left once a base has been stripped, if the path lies at or below it. -/
def relativeTo? (p base : Path) : Option (List Component) :=
  stripComponents? base.components p.components

/-- Components written with slashes between them. -/
def spell (cs : List Component) : String := "/".intercalate (cs.map Component.text)

/-- Whether one list of components comes before another, compared step by step. -/
def componentsLt : List Component → List Component → Bool
  | _, [] => false
  | [], _ :: _ => true
  | a :: as, b :: bs => if a = b then componentsLt as bs else a.lt b

/-! ## Joining and splitting pieces -/

theorem unsegments_cons_cons (c : Char) (piece : List Char) (pieces : List (List Char)) :
    unsegments ((c :: piece) :: pieces) = c :: unsegments (piece :: pieces) := by
  cases pieces <;> rfl

theorem segments_ne_nil (cs : List Char) : segments cs ≠ [] := by
  cases cs with
  | nil => simp [segments]
  | cons c rest =>
    by_cases hc : c = '/'
    · simp [segments, hc]
    · simp only [segments, hc, if_false]
      split <;> simp

/-- Cutting a text at its slashes and writing the pieces again gives the text back. -/
theorem unsegments_segments (cs : List Char) : unsegments (segments cs) = cs := by
  induction cs with
  | nil => rfl
  | cons c rest ih =>
    by_cases hc : c = '/'
    · subst hc
      cases h : segments rest with
      | nil => exact absurd h (segments_ne_nil rest)
      | cons piece pieces =>
        rw [h] at ih
        simp [segments, h, unsegments, ih]
    · cases h : segments rest with
      | nil => exact absurd h (segments_ne_nil rest)
      | cons piece pieces =>
        rw [h] at ih
        simp [segments, hc, h, unsegments_cons_cons, ih]

end Path

end VulkanWire
