import VulkanWire.Path

/-!
# Access to files

What generation and comparison need from a file system, as a class: programs
are written once over `Storage` and run on real files in the outermost layer
and on a `Disk` value everywhere else. A failing operation answers with its
cause, and the wording of a cause stands in `FileFault.message` alone.
-/

namespace VulkanWire

/-- Why a file operation failed. -/
inductive FileFault where
  /-- Nothing is there. -/
  | missing
  /-- Something is there already. -/
  | occupied
  /-- A component that should lead on is a file. -/
  | notDirectory
  /-- A directory stands where a file is wanted. -/
  | isDirectory
  /-- A name is longer than names may be. -/
  | nameTooLong
  /-- The bytes are not text. -/
  | notText
  /-- The path holds a character that no path may hold. -/
  | nulInPath
  /-- Any other cause, in the words of the system. -/
  | other (text : String)
deriving DecidableEq, Repr

namespace FileFault

def message : FileFault → String
  | missing => "No such file or directory (os error 2)"
  | occupied => "File exists (os error 17)"
  | notDirectory => "Not a directory (os error 20)"
  | isDirectory => "Is a directory (os error 21)"
  | nameTooLong => "File name too long (os error 36)"
  | notText => "stream did not contain valid UTF-8"
  | nulInPath => "file name contained an unexpected NUL byte"
  | other text => text

end FileFault

/-- The file operations a program may use. -/
class Storage (m : Type → Type) where
  /-- Whether a path leads to anything. -/
  present : Path → m Bool
  /-- The whole text of a file. -/
  readText : Path → m (Except FileFault String)
  /-- Makes a text the whole content of a file. -/
  writeText : Path → String → m (Except FileFault Unit)
  /-- Creates a directory and all that are missing above it. -/
  makeDirs : Path → m (Except FileFault Unit)
  /-- The directory that relative paths start from. -/
  workingDir : m (Except FileFault Path)

end VulkanWire
