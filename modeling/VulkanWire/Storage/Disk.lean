import VulkanWire.Storage.Basic

/-!
# Disks: file systems as values

A `Disk` holds directories and files with their bytes. There are no links, so
a path names at most one place; it is followed piece by piece, and every piece
that leads on must be a directory. The operations fail with the same causes,
in the same order of precedence, as the file system they stand for. Permissions
are left out, so that everything may be read and written, and so are names whose
bytes are no text.

## Main definitions

* `Disk.follow` — walks along the pieces of a path.
* `Disk.stat`, `Disk.readText`, `Disk.write`, `Disk.makeDir`,
  `Disk.makeDirs` — the operations of `Storage`.
* `Disk.remove` — takes out what a path leads to, with everything below it.
* `instStorageOnDisk` — programs run on a disk as state transformers.
-/

namespace VulkanWire

/-- What stands at a place of a disk. -/
inductive Node where
  | file (content : ByteArray)
  | directory

namespace Node

instance : DecidableEq Node
  | .file content, .file content' =>
    match content.instDecidableEq content' with
    | .isTrue h => .isTrue (congrArg file h)
    | .isFalse h => .isFalse fun hfile => h (Node.file.inj hfile)
  | .directory, .directory => .isTrue rfl
  | .file _, .directory => .isFalse (by simp)
  | .directory, .file _ => .isFalse (by simp)

end Node

/-- A place on a disk: the names that lead to it from the root. -/
abbrev Place := List String

/-- A file system without links and permissions. The root is always a directory. -/
structure Disk where
  /-- Everything below the root. -/
  nodes : List (Place × Node)
  /-- The directory that relative paths start from. -/
  workingPlace : Place
deriving DecidableEq

namespace Disk

/-- What stands at a place. -/
def node? (d : Disk) (place : Place) : Option Node :=
  if place = [] then some .directory else d.nodes.lookup place

/-- Puts a node at a place other than the root, instead of what stood there. -/
def put (d : Disk) (place : Place) (node : Node) : Disk :=
  { d with nodes := go d.nodes }
where
  go : List (Place × Node) → List (Place × Node)
    | [] => [(place, node)]
    | (p, n) :: rest => if p = place then (p, node) :: rest else (p, n) :: go rest

/-- Whether a directory stands at a place. The working directory remains one after it has been
taken out. -/
def isDirectoryAt (d : Disk) (place : Place) : Bool :=
  d.node? place = some .directory ∨ place = d.workingPlace

/-- The greatest number of bytes in a name. -/
def maxName : Nat := 255

/-- The greatest number of bytes in a path. -/
def maxPath : Nat := 4095

/-! ## Following paths -/

/-- Walks along pieces from a place; each piece must start at a directory and lead to something. A
directory that has been taken out has no entries, whatever their names. -/
def follow (d : Disk) : Place → List String → Except FileFault Place
  | place, [] => .ok place
  | place, piece :: rest =>
    if d.isDirectoryAt place then
      if piece = "." then d.follow place rest
      else if piece = ".." then d.follow place.dropLast rest
      else if (d.node? place).isNone then .error .missing
      else if piece.utf8ByteSize > maxName then .error .nameTooLong
      else if (d.node? (place ++ [piece])).isSome then d.follow (place ++ [piece]) rest
      else .error .missing
    else .error .notDirectory

/-- A path made ready to be followed. -/
structure Route where
  /-- Where the walk starts. -/
  start : Place
  /-- The pieces that say something or are dots, in order. -/
  pieces : List String
  /-- Whether a slash at the end asks for a directory. -/
  slashed : Bool

/-- The route of a path, unless its text can be no path at all. -/
def route (d : Disk) (p : Path) : Except FileFault Route :=
  let cs := p.text.toList
  if cs.contains '\x00' then .error .nulInPath
  else if cs = [] then .error .missing
  else if p.text.utf8ByteSize > maxPath then .error .nameTooLong
  else .ok {
    start := if p.isAbsolute then [] else d.workingPlace
    pieces := ((Path.segments cs).filter (· ≠ [])).map String.ofList
    slashed := cs.getLast? = some '/' }

/-- The place a path names, if it leads to something. -/
def stat (d : Disk) (p : Path) : Except FileFault Place := do
  let r ← d.route p
  let place ← d.follow r.start r.pieces
  if r.slashed ∧ ¬ d.isDirectoryAt place then .error .notDirectory else .ok place

def hasDirectory (d : Disk) (p : Path) : Bool :=
  match d.stat p with
  | .ok place => d.isDirectoryAt place
  | .error _ => false

/-- The directory in which a path's last piece would be created, and that piece; `blocked` is the
answer when the last piece names no entry. -/
def slot (d : Disk) (blocked : FileFault) (r : Route) : Except FileFault Place :=
  match r.pieces.reverse with
  | [] => .error blocked
  | last :: earlier => do
    let place ← d.follow r.start earlier.reverse
    if ¬ d.isDirectoryAt place then .error .notDirectory
    else if last = "." ∨ last = ".." then .error blocked
    else .ok (place ++ [last])

/-- Why nothing can be created at a place in a directory, if so: the directory has been taken out, or
the name is too long. -/
def refusal? (d : Disk) (place : Place) : Option FileFault :=
  if (d.node? place.dropLast).isNone then some .missing
  else if (place.getLast?.getD "").utf8ByteSize > maxName then some .nameTooLong
  else none

/-! ## The operations -/

def readBytes (d : Disk) (p : Path) : Except FileFault ByteArray := do
  let place ← d.stat p
  match d.node? place with
  | some (.file content) => .ok content
  | _ => .error .isDirectory

def readText (d : Disk) (p : Path) : Except FileFault String := do
  let bytes ← d.readBytes p
  match String.fromUTF8? bytes with
  | some text => .ok text
  | none => .error .notText

/-- The disk after the bytes have become the content of a file. -/
def write (d : Disk) (p : Path) (content : ByteArray) : Except FileFault Disk := do
  let r ← d.route p
  let place ← d.slot .isDirectory r
  if r.slashed then .error .isDirectory
  else if let some e := d.refusal? place then .error e
  else if d.isDirectoryAt place then .error .isDirectory
  else .ok (d.put place (.file content))

/-- The disk with one new directory. -/
def makeDir (d : Disk) (p : Path) : Except FileFault Disk := do
  let r ← d.route p
  let place ← d.slot .occupied r
  if let some e := d.refusal? place then .error e
  else if (d.node? place).isSome then .error .occupied
  else .ok (d.put place .directory)

/-- The disk with a directory and all that were missing above it. A failure keeps the directories
created before it. -/
def makeDirs (d : Disk) (p : Path) : Except FileFault Unit × Disk :=
  go p.text.length p d
where
  /-- Tries the directory itself, and once more after its parent if that was missing. -/
  go : Nat → Path → Disk → Except FileFault Unit × Disk
    | 0, _, d => (.ok (), d)
    | fuel + 1, p, d =>
      match d.makeDir p with
      | .ok d => (.ok (), d)
      | .error .missing =>
        match p.parent? with
        | none => (.error .missing, d)
        | some above =>
          match go fuel above d with
          | (.error e, d) => (.error e, d)
          | (.ok (), d) =>
            match d.makeDir p with
            | .ok d => (.ok (), d)
            | .error e => if d.hasDirectory p then (.ok (), d) else (.error e, d)
      | .error e => if d.hasDirectory p then (.ok (), d) else (.error e, d)

/-- Everything below a place, with the names that lead to it from there. -/
def below (d : Disk) (place : Place) : List (Place × Node) :=
  d.nodes.filterMap fun (q, n) =>
    if place.isPrefixOf q ∧ q ≠ place then some (q.drop place.length, n) else none

/-! ## Taking out -/

/-- A place that no path leads to, in the directory that holds the given one: a piece of a path has
no slash in it. -/
def unreachable (place : Place) : Place := place.dropLast ++ [place.getLast?.getD "" ++ "/"]

/-- The disk without a place and everything below it. A working directory that goes with it is
still there for those who stand in it, but no path from the root leads to it any more. -/
def erase (d : Disk) (place : Place) : Disk where
  nodes := d.nodes.filter fun (q, _) => ¬ place.isPrefixOf q
  workingPlace :=
    if place.isPrefixOf d.workingPlace then
      unreachable place ++ d.workingPlace.drop place.length
    else d.workingPlace

/-- The disk without everything below a place. -/
def clear (d : Disk) (place : Place) : Disk :=
  (d.below place).foldl (fun d (q, _) => d.erase (place ++ q)) d

/-- The disk without the entry that a path's last piece names; dots name no entry. -/
def takeOut (d : Disk) (p : Path) : Except FileFault Disk := do
  let r ← d.route p
  let place ← d.slot (.other "Invalid argument (os error 22)") r
  if (d.node? place).isSome then .ok (d.erase place) else .error .missing

/-- The disk without what a path leads to. A directory is cleared first and then taken out by the
same path. Where that path went through what is gone by then, the directory stays, and where it
ends in a dot the removal fails with the directory cleared. -/
def remove (d : Disk) (p : Path) : Except FileFault Unit × Disk :=
  match d.stat p with
  | .error e => (.error e, d)
  | .ok place =>
    let cleared := d.clear place
    match cleared.takeOut p with
    | .ok d => (.ok (), d)
    | .error .missing => (.ok (), cleared)
    | .error e => (.error e, cleared)

/-! ## Views -/

def pathOf (place : Place) : Path := ⟨"/" ++ "/".intercalate place⟩

/-- Every entry below the working directory as a line: a directory with a slash, a file with its
size. The lines are in ascending order. -/
def listing (d : Disk) : List String :=
  let entries := (d.below d.workingPlace).map fun (place, node) =>
    let name := "/".intercalate place
    match node with
    | .directory => name ++ "/"
    | .file content => s!"{name} {content.size}"
  entries.mergeSort fun a b => !(b < a)

/-- A disk that holds nothing but the given directories and those above them. -/
def ofDirectories (workingPlace : Place) (places : List Place) : Disk :=
  (places ++ [workingPlace]).foldl
    (fun d place =>
      (List.range place.length).foldl
        (fun d i => if (d.node? (place.take (i + 1))).isSome then d
          else d.put (place.take (i + 1)) .directory) d)
    ⟨[], workingPlace⟩

end Disk

/-- Programs that work on a disk. -/
abbrev OnDisk := StateM Disk

instance instStorageOnDisk : Storage OnDisk where
  present p := do return (← get).stat p |>.isOk
  readText p := do return (← get).readText p
  writeText p text := do
    match (← get).write p text.toUTF8 with
    | .ok d => set d; return .ok ()
    | .error e => return .error e
  makeDirs p := modifyGet fun d => d.makeDirs p
  workingDir := do
    let d ← get
    return if (d.node? d.workingPlace).isSome then .ok (Disk.pathOf d.workingPlace)
      else .error .missing

end VulkanWire
