import VulkanWire.Emitter.Basic

/-!
# The dispatch table

A struct with one function pointer per command, aliases included, and a routine
that fills it from the system loader. The routine looks the commands of each
feature up inside that feature's guard; a feature without commands gets none.
-/

namespace VulkanWire

/-- The commands that a feature introduced. -/
structure FeatureCommands where
  feature : String
  commands : List String
deriving DecidableEq, Repr

/-- The dispatch emitter with the features and commands seen so far. -/
structure Dispatch where
  features : List FeatureCommands := []
deriving DecidableEq, Repr

namespace Dispatch

/-- Adds a command to the last of the features, if there is one. -/
def addCommand (name : String) : List FeatureCommands → List FeatureCommands
  | [] => []
  | [f] => [{ f with commands := f.commands ++ [name] }]
  | f :: rest => f :: addCommand name rest

def renderPointer (name : String) : String := s!"    PFN_{name} {name};\n"

def renderLookup (name : String) : String :=
  s!"    out->{name} = (PFN_{name})dlSymFunc(lib, \"{name}\");\n"

/-- The look-ups of a feature inside its guard. -/
def renderFeature (f : FeatureCommands) : String :=
  if f.commands = [] then ""
  else s!"#ifdef {f.feature}\n" ++ String.join (f.commands.map renderLookup) ++ "#endif\n"

def loaderSignature : String :=
  "void init_vulkan_dispatch_from_system_loader(DlOpenFunc dlOpenFunc, DlSymFunc dlSymFunc, VulkanDispatch* out)"

def loader (fs : List FeatureCommands) : String :=
  lines [
    s!"{loaderSignature} \x7b",
    "    memset(out, 0x0, sizeof(VulkanDispatch));",
    "    void* lib = dlOpenFunc();",
    "    if (!lib) return;"] ++
  String.join (fs.map renderFeature) ++ "\x7d\n\n"

/-- The text for a step and the emitter after it. -/
def respond (c : Callback) (d : Dispatch) : Emission × Dispatch :=
  match c with
  | .start => (.inHeader "struct VulkanDispatch \x7b\n", d)
  | .enterFeature name _ => (.silent, ⟨d.features ++ [⟨name, []⟩]⟩)
  | .element (.command cmd) =>
    (.inHeader (renderPointer cmd.name), ⟨addCommand cmd.name d.features⟩)
  | .finish =>
    ({ header := s!"\x7d;\n\n{loaderSignature};\n\n", implementation := loader d.features }, d)
  | _ => (.silent, d)

end Dispatch

end VulkanWire
