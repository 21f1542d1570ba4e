import VulkanWire.Command.Run

/-!
# The command line tool

The outermost layer: real files as a `Storage`, and `main`, which hands the
words of the command line and the variables of the environment to `runLine`
and shows what comes back.
-/

namespace VulkanWire

/-- The cause that a system's error code stands for. -/
def FileFault.ofCode (code : UInt32) (details : String) : FileFault :=
  if code = 2 then .missing
  else if code = 17 then .occupied
  else if code = 20 then .notDirectory
  else if code = 21 then .isDirectory
  else if code = 36 then .nameTooLong
  else .other s!"{details} (os error {code})"

/-- The cause of a failed operation on real files. -/
def FileFault.ofError : IO.Error → FileFault
  | .alreadyExists _ code details | .invalidArgument _ code details
  | .permissionDenied _ code details | .resourceExhausted _ code details
  | .inappropriateType _ code details | .noSuchThing _ code details
  | .interrupted _ code details | .noFileOrDirectory _ code details
  | .otherError code details | .resourceBusy code details | .resourceVanished code details
  | .unsupportedOperation code details | .hardwareFault code details
  | .unsatisfiedConstraints code details | .illegalOperation code details
  | .protocolError code details | .timeExpired code details => .ofCode code details
  | .unexpectedEof => .other "unexpected end of file"
  | .userError text => .other text

/-- Runs an operation on a path, unless the path can be none. -/
def onPath {α : Type} (p : Path) (act : String → IO α) : IO (Except FileFault α) := do
  if p.text.toList.contains '\x00' then return .error .nulInPath
  try
    return .ok (← act p.text)
  catch e =>
    return .error (.ofError e)

instance : Storage IO where
  present p := do
    match ← onPath p fun name => IO.FS.Handle.mk name .read with
    | .ok _ => return true
    | .error (.other _) => return true
    | .error _ => return false
  readText p := do
    match ← onPath p fun name => IO.FS.readBinFile name with
    | .error cause => return .error cause
    | .ok bytes =>
      match String.fromUTF8? bytes with
      | some text => return .ok text
      | none => return .error .notText
  writeText p text := onPath p fun name => IO.FS.writeFile name text
  makeDirs p := onPath p fun name => IO.FS.createDirAll name
  workingDir := onPath "." fun _ => do return ⟨(← IO.currentDir).toString⟩

/-- Whether colours are wanted: a forcing variable decides, then one that forbids them, then
whether the output is a terminal that is not said to lack them. -/
def coloursWanted (force forbid terminal : Option String) (isTerminal : Bool) : Bool :=
  if force.any (· ≠ "0") then true
  else if forbid.isSome then false
  else terminal.all (· ≠ "0") && isTerminal

/-- The variables that are looked at, with the values they have. -/
def environment : IO (List (String × String)) := do
  let values ← EnvOverrides.names.mapM fun name => do return (name, ← IO.getEnv name)
  return values.filterMap fun (name, value) => value.map (name, ·)

end VulkanWire

open VulkanWire in
def main (words : List String) : IO UInt32 := do
  let colours := coloursWanted (← IO.getEnv "CLICOLOR_FORCE") (← IO.getEnv "NO_COLOR")
    (← IO.getEnv "CLICOLOR") (← (← IO.getStdout).isTty)
  let t ← runLine colours (← environment) words
  IO.print t.output
  if let some complaint := t.complaint then IO.eprintln complaint
  return t.exitCode.toUInt32
