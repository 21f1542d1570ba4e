import VulkanWire.Path

/-!
# Module declarations

A module is one generated unit with a header and an implementation file. Its
declaration names it, says which side of the build it belongs to, and carries
what its files hold beside the generated text.
-/

namespace VulkanWire

/-- The part of the build that a module belongs to. -/
inductive ModuleRole where
  | guestEncoder
  | host
  | common
deriving DecidableEq, Repr, Inhabited

namespace ModuleRole

/-- How reports spell a role. -/
def spelling : ModuleRole → String
  | guestEncoder => "guest_encoder"
  | host => "host"
  | common => "common"

def all : List ModuleRole := [guestEncoder, host, common]

/-- The role with a spelling. -/
def ofSpelling? (name : String) : Option ModuleRole := all.find? fun r => r.spelling = name

end ModuleRole

/-- The declaration of a module. -/
structure ModuleSpec where
  /-- The name that bindings and the suppression switch use. -/
  name : String
  /-- The name of its files without their endings. -/
  basename : String
  role : ModuleRole
  /-- The directory of its files, if not the one of its role. -/
  directory : Option Path := none
  /-- Whether its text stands inside the namespace block. -/
  useNamespace : Bool := true
  headerOnly : Bool := false
  implOnly : Bool := false
  /-- Whether its text stands outside all feature guards. -/
  suppressFeatureGuards : Bool := false
  /-- Whether its header leaves the API headers out. -/
  suppressApiHeaders : Bool := false
  /-- Text after the header's includes. -/
  extraHeader : String := ""
  /-- Text after the implementation's include. -/
  extraImpl : String := ""
deriving DecidableEq, Repr

namespace ModuleSpec

/-- A module called after its files. -/
def ofBasename (basename : String) (role : ModuleRole) : ModuleSpec :=
  { name := basename, basename, role }

end ModuleSpec

end VulkanWire
