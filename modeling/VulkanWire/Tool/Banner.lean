import VulkanWire.Storage.Basic

/-!
# Commands in banners

A banner names the command that generates a file again. Paths in it are
written relative to the working directory, so that a file does not depend on
where its sources are checked out. Anything that names no existing path stands
as it is.

## Main definitions

* `bannerCommand` — a command as banners write it.
* `regenerationCommand` — the command that generates from a schema.
-/

namespace VulkanWire

/-- An existing path as banners write it: its components below the working directory, or all of
them, with a dot if there are none. -/
def bannerPath (workingDir path : Path) : String :=
  let components :=
    if path.isAbsolute then (path.relativeTo? workingDir).getD path.components
    else path.components
  if components = [] then "." else Path.spell components

section Naming

variable {m : Type → Type} [Monad m] [Storage m]

/-- An argument as banners write it. -/
def bannerArgument (workingDir : Path) (arg : String) : m String := do
  if ← Storage.present ⟨arg⟩ then return bannerPath workingDir ⟨arg⟩ else return arg

def bannerArguments (workingDir : Path) : List String → m (List String)
  | [] => pure []
  | arg :: rest => do
    let first ← bannerArgument workingDir arg
    let others ← bannerArguments workingDir rest
    pure (first :: others)

def bannerCommand (workingDir : Path) (args : List String) : m String := do
  return " ".intercalate (← bannerArguments workingDir args)

/-- The command that generates from a schema, as banners write it. -/
def regenerationCommand (workingDir schema : Path) : m String :=
  bannerCommand workingDir ["vk-cereal", "generate", "--schema", schema.text]

end Naming

end VulkanWire
