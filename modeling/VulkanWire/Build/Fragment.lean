import VulkanWire.Output.Spec

/-!
# Build fragments

Every module that is written with an implementation file contributes a build
entry. The entries of guest modules and those of all others form two lists,
and each list is rendered as a piece of a build script that names the files
relative to where the script stands.

## Main definitions

* `BuildFragments.add` — adds an entry to its list.
* `relativeSpelling` — how a file is named from a base directory.
* `BuildFragments.renderGuest`, `BuildFragments.renderHost` — the two scripts.
-/

namespace VulkanWire

/-- The implementation file of a module. -/
structure BuildEntry where
  role : ModuleRole
  module : String
  path : Path
deriving DecidableEq, Repr

/-- The names that build fragments refer to. -/
structure FragmentSettings where
  /-- The command that the banner names. -/
  commandLine : String := "vk-cereal generate"
  /-- The library of host modules. -/
  hostLibrary : String := "OpenglRender_vulkan_cereal"
  /-- The library that the host library always links. -/
  baseLibrary : String := "android-emu-base"
  /-- The target that provides the API headers, if there is one. -/
  headerTarget : String := ""
  /-- The utility library, if there is one. -/
  utilsLibrary : String := ""
deriving DecidableEq, Repr, Inhabited

/-- The build entries of a run. -/
structure BuildFragments where
  /-- The entries of guest modules. -/
  guest : List BuildEntry := []
  /-- The entries of all other modules. -/
  host : List BuildEntry := []
deriving DecidableEq, Repr, Inhabited

namespace BuildFragments

/-- Adds an entry to the list of its role. -/
def add (f : BuildFragments) (e : BuildEntry) : BuildFragments :=
  match e.role with
  | .guestEncoder => { f with guest := f.guest ++ [e] }
  | .host | .common => { f with host := f.host ++ [e] }

/-- Entries by role, each list in the given order. -/
def ofEntries (es : List BuildEntry) : BuildFragments := es.foldl add {}

def isEmpty (f : BuildFragments) : Bool := f.guest.isEmpty && f.host.isEmpty

end BuildFragments

/-- How a file is named from a base directory: by the components below it, or by its own text if
it lies elsewhere. -/
def relativeSpelling (path base : Path) : String :=
  match path.relativeTo? base with
  | some components => Path.spell components
  | none => path.text

namespace FragmentSettings

def banner (s : FragmentSettings) : String :=
  s!"# Autogenerated makefile\n# {s.commandLine}\n# Please do not modify directly; re-run the generator.\n\n"

end FragmentSettings

namespace BuildFragments

/-- The script of the guest modules, to stand in a base directory. -/
def renderGuest (f : BuildFragments) (base : Path) (s : FragmentSettings) : String :=
  let files := f.guest.map fun e => "    " ++ relativeSpelling e.path base
  s.banner ++ "LOCAL_SRC_FILES += \\\n" ++ " \\\n".intercalate files ++ "\n"

/-- A name on a line of its own inside a list of libraries, if there is one. -/
def libraryLine (name : String) : String := if name = "" then "" else s!"    {name}\n"

/-- The script of all other modules, to stand in a base directory. -/
def renderHost (f : BuildFragments) (base : Path) (s : FragmentSettings) : String :=
  let files := " ".intercalate (f.host.map fun e => relativeSpelling e.path base)
  let library := s.hostLibrary
  s.banner ++ s!"add_library({library} {files})\n" ++
    s!"target_compile_definitions({library} PRIVATE -DVK_GOOGLE_gfxstream)\n" ++
    s!"if (WIN32)\n    target_compile_definitions({library} PRIVATE -DVK_USE_PLATFORM_WIN32_KHR)\nendif()\n" ++
    s!"target_link_libraries(\n    {library}\n    PUBLIC\n    {s.baseLibrary}\n" ++
    libraryLine s.headerTarget ++ "    PRIVATE\n" ++ libraryLine s.utilsLibrary ++ ")\n\n" ++
    s!"target_include_directories({library}\n" ++
    "                           PUBLIC\n" ++
    "                           .\n" ++
    "                           PRIVATE\n" ++
    "                           ..\n" ++
    "                           ../..\n" ++
    "                           ../../../include)\n"

/-! ## Entries by role -/

theorem guest_add (f : BuildFragments) (e : BuildEntry) :
    (f.add e).guest = f.guest ++ [e].filter (·.role = .guestEncoder) := by
  cases h : e.role <;> simp [add, h]

theorem host_add (f : BuildFragments) (e : BuildEntry) :
    (f.add e).host = f.host ++ [e].filter (·.role ≠ .guestEncoder) := by
  cases h : e.role <;> simp [add, h]

theorem foldl_add (f : BuildFragments) (es : List BuildEntry) :
    es.foldl add f =
      ⟨f.guest ++ es.filter (·.role = .guestEncoder),
        f.host ++ es.filter (·.role ≠ .guestEncoder)⟩ := by
  induction es generalizing f with
  | nil => simp
  | cons e es ih =>
    rw [List.foldl_cons, ih, guest_add, host_add]
    simp only [List.append_assoc, ← List.filter_append, List.singleton_append]

/-- Each list holds the entries of its role in the given order. -/
theorem ofEntries_eq (es : List BuildEntry) :
    ofEntries es =
      ⟨es.filter (·.role = .guestEncoder), es.filter (·.role ≠ .guestEncoder)⟩ := by
  simpa [ofEntries] using foldl_add {} es

end BuildFragments

end VulkanWire
