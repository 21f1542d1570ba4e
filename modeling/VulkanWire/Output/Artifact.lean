import VulkanWire.Storage.Basic

/-!
# Artifacts and their delivery

An artifact is a text with the path it belongs at. The artifacts of a module
are delivered as one unit: every directory they need is created first, then
the files are written in order, and the first failure ends the unit with a
record of what has landed. A dry run delivers by showing the content and
touches no file.

## Main definitions

* `Artifact.parents` — the directories a unit needs, each once, in path order.
* `deliverUnit` — delivers the artifacts of a module.
* `deliverFragment` — delivers a single artifact.
-/

namespace VulkanWire

/-- What an artifact is. -/
inductive ArtifactKind where
  | header
  | implementation
  | buildFragment
deriving DecidableEq, Repr, Inhabited

namespace ArtifactKind

/-- How reports spell a kind. -/
def spelling : ArtifactKind → String
  | header => "header"
  | implementation => "impl"
  | buildFragment => "build fragment"

end ArtifactKind

/-- A text with the path it belongs at. -/
structure Artifact where
  kind : ArtifactKind
  path : Path
  content : String
deriving DecidableEq, Repr, Inhabited

/-- An artifact that has been delivered. -/
inductive Delivery where
  /-- Its content has become the content of its file. -/
  | written (kind : ArtifactKind) (path : Path) (bytes : Nat)
  /-- Its content has only been shown. -/
  | shown (kind : ArtifactKind) (path : Path) (content : String)
deriving DecidableEq, Repr

namespace Delivery

def kind : Delivery → ArtifactKind
  | written kind _ _ => kind
  | shown kind _ _ => kind

def path : Delivery → Path
  | written _ path _ => path
  | shown _ path _ => path

def bytes : Delivery → Nat
  | written _ _ bytes => bytes
  | shown _ _ content => content.utf8ByteSize

/-- The content, where it was only shown. -/
def content? : Delivery → Option String
  | written _ _ _ => none
  | shown _ _ content => some content

end Delivery

/-- What a failed delivery was doing. -/
inductive DeliveryStep where
  | createDirectory
  | writeFile
deriving DecidableEq, Repr

/-- Why an artifact was not delivered. -/
structure DeliveryFault where
  step : DeliveryStep
  path : Path
  cause : FileFault
deriving DecidableEq, Repr

namespace DeliveryFault

def message (f : DeliveryFault) : String :=
  match f.step with
  | .createDirectory => s!"Failed to create directory {f.path.text}: {f.cause.message}"
  | .writeFile => s!"Failed to write file {f.path.text}: {f.cause.message}"

end DeliveryFault

/-- A unit that ended early. -/
structure PartialDelivery where
  /-- What was delivered before the failure. -/
  landed : List Delivery
  fault : DeliveryFault
deriving DecidableEq, Repr

namespace Artifact

/-- The delivery of an artifact by showing it. -/
def preview (a : Artifact) : Delivery := .shown a.kind a.path a.content

/-- Enters a directory into a list in path order; of two spellings of one directory the later
stays. -/
def insertParent (p : Path) : List Path → List Path
  | [] => [p]
  | q :: rest =>
    if p.components = q.components then p :: rest
    else if Path.componentsLt p.components q.components then p :: q :: rest
    else q :: insertParent p rest

/-- The directory an artifact needs, unless it is the working directory or there is none. -/
def parent? (a : Artifact) : Option Path := a.path.parent?.filter fun p => p.text ≠ ""

/-- The directories that artifacts need, each once, in path order. -/
def parents (as : List Artifact) : List Path :=
  (as.filterMap parent?).foldl (fun acc p => insertParent p acc) []

end Artifact

section Delivering

variable {m : Type → Type} [Monad m] [Storage m]

/-- Creates directories one after the other, up to the first failure. -/
def createDirectories : List Path → m (Except DeliveryFault Unit)
  | [] => pure (.ok ())
  | p :: rest => do
    match ← Storage.makeDirs p with
    | .ok () => createDirectories rest
    | .error cause => pure (.error ⟨.createDirectory, p, cause⟩)

def persist (a : Artifact) : m (Except DeliveryFault Delivery) := do
  match ← Storage.writeText a.path a.content with
  | .ok () => pure (.ok (.written a.kind a.path a.content.utf8ByteSize))
  | .error cause => pure (.error ⟨.writeFile, a.path, cause⟩)

/-- Writes artifacts to their files in order, up to the first failure. -/
def persistAll : List Artifact → m (Except PartialDelivery (List Delivery))
  | [] => pure (.ok [])
  | a :: rest => do
    match ← persist a with
    | .error fault => pure (.error ⟨[], fault⟩)
    | .ok d =>
      match ← persistAll rest with
      | .ok ds => pure (.ok (d :: ds))
      | .error p => pure (.error ⟨d :: p.landed, p.fault⟩)

/-- Delivers the artifacts of a module as one unit. -/
def deliverUnit (dryRun : Bool) (as : List Artifact) :
    m (Except PartialDelivery (List Delivery)) := do
  if dryRun then pure (.ok (as.map Artifact.preview))
  else
    match ← createDirectories (Artifact.parents as) with
    | .error fault => pure (.error ⟨[], fault⟩)
    | .ok () => persistAll as

def deliverFragment (dryRun : Bool) (a : Artifact) : m (Except DeliveryFault Delivery) := do
  if dryRun then pure (.ok a.preview)
  else
    match ← createDirectories (Artifact.parents [a]) with
    | .error fault => pure (.error fault)
    | .ok () => persist a

end Delivering

end VulkanWire
