import VulkanWire.Emitter.Basic

/-!
# Guest entry points and their look-up

Every command that is not an alias gets an entry point that forwards to the
encoder, and a second one that first checks for the extension when a device
extension introduces the command on a device-level handle. Two look-up routines
list every required command, aliases included, inside its feature's guard; an
alias leads to the entry point of the command it re-exports.

## Main definitions

* `LookupEntry`, `LookupBlock` — the look-up routines as data.
* `FunctionTable.lookups` — the blocks of a routine.
* `FunctionTable` — the emitter with the features and commands seen so far.
-/

namespace VulkanWire

/-- The commands that a feature requires. -/
structure RequiredCommands where
  feature : String
  kind : FeatureKind
  /-- The commands in order of first mention. -/
  commands : List String
deriving DecidableEq, Repr

/-- A command name with the entry point it leads to. -/
structure LookupEntry where
  command : String
  entryPoint : String
deriving DecidableEq, Repr

/-- The look-ups inside one feature's guard. -/
structure LookupBlock where
  feature : String
  entries : List LookupEntry
deriving DecidableEq, Repr

/-- The function table emitter with what it has seen so far. -/
structure FunctionTable where
  /-- The features entered, in order. -/
  blocks : List RequiredCommands := []
  /-- The commands with an entry point that checks for its extension. -/
  checked : List String := []
deriving DecidableEq, Repr

namespace FunctionTable

/-! ## Entry points -/

def entryName (command : String) : String := s!"entry_{command}"

/-- The name of a command's entry point that checks for the extension. -/
def checkedName (command : String) : String := s!"dynCheck_entry_{command}"

/-- The statements that forward a call to the encoder. -/
def forward (d : CommandDef) : String :=
  let arguments :=
    if d.params = [] then "true /* do lock */" else s!"{d.argumentList}, true /* do lock */"
  if d.returnsValue then lines [
    s!"    {d.returnType} {d.name}_return = ({d.returnType})0;",
    s!"    {d.name}_return = vkEnc->{d.name}({arguments});",
    s!"    return {d.name}_return;"]
  else s!"    vkEnc->{d.name}({arguments});\n"

/-- The statements that trace a call and fetch the encoder. -/
def fetchEncoder (d : CommandDef) : String := lines [
  s!"    AEMU_SCOPED_TRACE(\"{d.name}\");",
  "    auto vkEnc = ResourceTracker::getThreadLocalEncoder();"]

def entryPoint (d : CommandDef) : String :=
  s!"static {d.returnType} {entryName d.name}({d.parameterList}) \x7b\n" ++ fetchEncoder d ++
    forward d ++ "\x7d\n"

/-- The parameter that names the device in an extension check. -/
def deviceParameter (d : CommandDef) : String :=
  match d.params with
  | [] => "device"
  | p :: _ => p.name

/-- The entry point of a command that checks for its extension first. -/
def checkedEntryPoint (d : CommandDef) (feature : String) : String :=
  lines [
    s!"static {d.returnType} {checkedName d.name}({d.parameterList}) \x7b",
    "    auto resources = ResourceTracker::get();",
    s!"    if (!resources->hasDeviceExtension({deviceParameter d}, \"{feature}\")) \x7b",
    s!"        sOnInvalidDynamicallyCheckedCall(\"{d.name}\", \"{feature}\");",
    "    \x7d"] ++
  fetchEncoder d ++ forward d ++ "\x7d\n"

/-- Whether a command of a feature needs an entry point that checks for the extension. -/
def needsCheck (r : Registry) (kind : FeatureKind) (d : CommandDef) : Bool :=
  kind = .deviceExtension &&
    match d.dispatchType? with
    | some type => r.isDeviceLevelHandle type
    | none => false

/-! ## Look-up -/

/-- The entry of a command in a look-up routine. -/
def lookupEntry (r : Registry) (checked : List String) (command : String) : LookupEntry :=
  let target := r.resolveAlias command
  ⟨command, if target ∈ checked then checkedName target else entryName target⟩

/-- The blocks of a look-up routine; features without required commands have none. -/
def lookups (r : Registry) (checked : List String) (blocks : List RequiredCommands) :
    List LookupBlock :=
  (blocks.filter (·.commands ≠ [])).map fun b =>
    ⟨b.feature, b.commands.map (lookupEntry r checked)⟩

def renderEntry (e : LookupEntry) : String := lines [
  s!"    if (!strcmp(name, \"{e.command}\")) \x7b",
  s!"        return (void*){e.entryPoint};",
  "    \x7d"]

/-- The look-ups of a feature inside its guard. -/
def renderBlock (b : LookupBlock) : String :=
  s!"#ifdef {b.feature}\n" ++ String.join (b.entries.map renderEntry) ++ "#endif\n"

/-- A look-up routine. -/
def lookupRoutine (name : String) (blocks : List LookupBlock) : String :=
  s!"void* {name}(const char* name) \x7b\n" ++ String.join (blocks.map renderBlock) ++
    "    return nullptr;\n\x7d\n"

/-- The name of the look-up routine for all commands. -/
def instanceLookup : String := "goldfish_vulkan_get_proc_address"

/-- The name of the look-up routine for commands of a device. -/
def deviceLookup : String := "goldfish_vulkan_get_device_proc_address"

/-! ## Steps -/

/-- The declarations and the routine that reports an unsupported call. -/
def opening : Emission where
  header := lines [
    s!"void* {instanceLookup}(const char* name);",
    s!"void* {deviceLookup}(const char* name);",
    ""]
  implementation := lines [
    "static void sOnInvalidDynamicallyCheckedCall(const char* apiname, const char* neededFeature) \x7b",
    "    ALOGE(\"invalid call to %s: %s not supported\", apiname, neededFeature);",
    "    abort();",
    "\x7d",
    ""]

/-- Adds a required command to the last of the features unless it is listed there already. -/
def addRequired (name : String) : List RequiredCommands → List RequiredCommands
  | [] => []
  | [b] => [if name ∈ b.commands then b else { b with commands := b.commands ++ [name] }]
  | b :: rest => b :: addRequired name rest

/-- The entry points of a command and the emitter after it. -/
def ofCommand (r : Registry) (d : CommandDef) (t : FunctionTable) : Emission × FunctionTable :=
  if d.aliasOf.isSome then (.silent, t)
  else match t.blocks.getLast? with
    | some b =>
      if needsCheck r b.kind d then
        (.inImplementation (entryPoint d ++ checkedEntryPoint d b.feature),
          { t with checked := t.checked ++ [d.name] })
      else (.inImplementation (entryPoint d), t)
    | none => (.inImplementation (entryPoint d), t)

/-- Both look-up routines; only the one for devices leads to checked entry points. -/
def closing (r : Registry) (t : FunctionTable) : Emission :=
  .inImplementation (lookupRoutine instanceLookup (lookups r [] t.blocks) ++
    lookupRoutine deviceLookup (lookups r t.checked t.blocks))

/-- The text for a step and the emitter after it. -/
def respond (r : Registry) (c : Callback) (t : FunctionTable) : Emission × FunctionTable :=
  match c with
  | .start => (opening, t)
  | .enterFeature name kind => (.silent, { t with blocks := t.blocks ++ [⟨name, kind, []⟩] })
  | .requireCommand name => (.silent, { t with blocks := addRequired name t.blocks })
  | .element (.command d) => ofCommand r d t
  | .finish => (closing r t, t)
  | _ => (.silent, t)

end FunctionTable

end VulkanWire
