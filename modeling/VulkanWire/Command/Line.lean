import VulkanWire.Config.Layers

/-!
# Command lines

A command line is a sequence of words. Options before the subcommand belong to
the tool, those after it to the subcommand; the one for more diagnostics may
stand on either side. A long option takes its value from the same word after an
equals sign or from the next word, a short one also from the rest of its own
word, and short options without values may share a word. A word that starts
like an option is never taken for a value. Words are read from left to right,
and the first that does not fit decides.

## Main definitions

* `OptionSpec` — an option of a subcommand.
* `readOptions` — the options that words give.
* `Command.parse` — the command that a whole line gives.
-/

namespace VulkanWire

/-- What an option takes. -/
inductive OptionKind where
  /-- Nothing, and it may be given once. -/
  | flag
  /-- Nothing, and it may be repeated. -/
  | counter
  /-- A path, which is not empty. -/
  | path
  /-- Any text. -/
  | text
  /-- Any text, and it may be repeated. -/
  | texts
deriving DecidableEq, Repr

namespace OptionKind

/-- Whether an option of the kind takes a value. -/
def takesValue : OptionKind → Bool
  | flag | counter => false
  | path | text | texts => true

/-- Whether an option of the kind may be repeated. -/
def repeats : OptionKind → Bool
  | counter | texts => true
  | flag | path | text => false

/-- Whether a value suits an option of the kind. -/
def accepts (k : OptionKind) (value : String) : Bool := k ≠ path || value ≠ ""

end OptionKind

/-- An option of a subcommand. -/
structure OptionSpec where
  /-- The name after two dashes. -/
  name : String
  /-- The letter after one dash, if there is one. -/
  letter : Option Char
  kind : OptionKind
deriving DecidableEq, Repr

/-- Why a command line gives no command. -/
inductive UsageStop where
  /-- It is no command line of the tool. -/
  | misuse
  | help
  | version
deriving DecidableEq, Repr

/-- Options with their values, in the order in which they were given. -/
abbrev GivenOptions := List (String × String)

/-- Adds an option to those before, unless it may not be given again or its value does not suit. -/
def GivenOptions.add (given : GivenOptions) (o : OptionSpec) (value : String) :
    Except UsageStop GivenOptions :=
  if !o.kind.repeats && (given.lookup o.name).isSome then .error .misuse
  else if !o.kind.accepts value then .error .misuse
  else .ok (given ++ [(o.name, value)])

/-! ## Words -/

/-- What a word is. -/
inductive Word where
  /-- A name after two dashes, and the text after an equals sign. -/
  | long (name : String) (value : Option String)
  /-- Letters after one dash. -/
  | short (letters : List Char)
  /-- Two dashes alone, after which nothing is an option. -/
  | terminator
  /-- Anything else. -/
  | plain (text : String)
deriving DecidableEq, Repr

namespace Word

/-- Splits a text at its first equals sign. -/
def splitValue (cs : List Char) : String × Option String :=
  match cs.span (· ≠ '=') with
  | (name, _ :: value) => (String.ofList name, some (String.ofList value))
  | (name, []) => (String.ofList name, none)

/-- What a word is. -/
def ofText (text : String) : Word :=
  match text.toList with
  | ['-', '-'] => terminator
  | '-' :: '-' :: rest => long (splitValue rest).1 (splitValue rest).2
  | '-' :: c :: rest => short (c :: rest)
  | _ => plain text

end Word

/-! ## Options -/

/-- The option that asks for more diagnostics. -/
def verboseOption : OptionSpec := ⟨"verbose", some 'v', .counter⟩

/-- The value in the rest of a word after a letter; an equals sign may stand in front of it. -/
def attachedValue : List Char → String
  | '=' :: rest => String.ofList rest
  | rest => String.ofList rest

/-- Reads letters that share a word. An option that takes a value takes the rest of the word, or is
left waiting for the next one. -/
def readLetters (specs : List OptionSpec) (given : GivenOptions) :
    List Char → Except UsageStop (GivenOptions × Option OptionSpec)
  | [] => .ok (given, none)
  | c :: rest =>
    match specs.find? fun o => o.letter = some c with
    | none => .error (if c = 'h' then .help else .misuse)
    | some o =>
      if o.kind.takesValue then
        if rest = [] then .ok (given, some o)
        else do
          let given ← given.add o (attachedValue rest)
          return (given, none)
      else do
        let given ← given.add o ""
        readLetters specs given rest

/-- Reads a name after two dashes. -/
def readName (specs : List OptionSpec) (given : GivenOptions) (name : String)
    (value : Option String) : Except UsageStop (GivenOptions × Option OptionSpec) :=
  match specs.find? fun o => o.name = name with
  | none => .error (if name = "help" ∧ value = none then .help else .misuse)
  | some o =>
    match o.kind.takesValue, value with
    | true, none => .ok (given, some o)
    | true, some v => do
      let given ← given.add o v
      return (given, none)
    | false, none => do
      let given ← given.add o ""
      return (given, none)
    | false, some _ => .error .misuse

/-- Reads words that are all options with their values, given those before and an option that waits
for its value. -/
def readOptions (specs : List OptionSpec) (given : GivenOptions) (waiting : Option OptionSpec) :
    List String → Except UsageStop GivenOptions
  | [] => if waiting.isSome then .error .misuse else .ok given
  | word :: rest =>
    match waiting, Word.ofText word with
    | some o, .plain value => do
      let given ← given.add o value
      readOptions specs given none rest
    | some _, _ => .error .misuse
    | none, .plain _ => .error .misuse
    | none, .terminator => if rest = [] then .ok given else .error .misuse
    | none, .short letters => do
      let (given, waiting) ← readLetters specs given letters
      readOptions specs given waiting rest
    | none, .long name value => do
      let (given, waiting) ← readName specs given name value
      readOptions specs given waiting rest

/-! ## Subcommands -/

/-- What the tool is asked to do. -/
inductive Command where
  | generate (schema : Path) (config : Option Path) (args : ArgOverrides)
  | init (output : Path) (force : Bool)
  /-- Compare what stands on disk with what would be generated. -/
  | validate (schema : Path) (config : Option Path) (args : ArgOverrides)
deriving DecidableEq, Repr

namespace Command

def generateOptions : List OptionSpec := [
  ⟨"schema", some 's', .path⟩,
  ⟨"output", some 'o', .path⟩,
  ⟨"guest-encoder-dir", none, .path⟩,
  ⟨"host-decoder-dir", none, .path⟩,
  ⟨"suppress", none, .text⟩,
  ⟨"feature", none, .texts⟩,
  ⟨"dry-run", none, .flag⟩,
  ⟨"config", some 'c', .path⟩,
  verboseOption]

/-- The options of the subcommand that creates a configuration file. -/
def initOptions : List OptionSpec := [
  ⟨"output", some 'o', .path⟩,
  ⟨"force", none, .flag⟩,
  verboseOption]

def validateOptions : List OptionSpec := [
  ⟨"schema", some 's', .path⟩,
  ⟨"output", some 'o', .path⟩,
  ⟨"config", some 'c', .path⟩,
  verboseOption]

def path? (given : GivenOptions) (name : String) : Option Path := (given.lookup name).map Path.mk

/-- The values given to an option that may be repeated. -/
def values (given : GivenOptions) (name : String) : List String :=
  given.filterMap fun (n, v) => if n = name then some v else none

/-- What options say about settings. -/
def overrides (given : GivenOptions) : ArgOverrides where
  output := path? given "output"
  guestEncoderDir := path? given "guest-encoder-dir"
  hostDecoderDir := path? given "host-decoder-dir"
  dryRun := if (given.lookup "dry-run").isSome then some true else none
  suppress := given.lookup "suppress"
  extraFeatures := values given "feature"

/-- The schema that options name, which they must. -/
def schema (given : GivenOptions) : Except UsageStop Path :=
  match path? given "schema" with
  | some schema => .ok schema
  | none => .error .misuse

/-- The names of the subcommands. -/
def names : List String := ["generate", "init", "validate", "help"]

/-- The command that a subcommand and the words after it give. -/
def ofSubcommand (name : String) (words : List String) : Except UsageStop Command :=
  if name = "generate" then do
    let given ← readOptions generateOptions [] none words
    return generate (← schema given) (path? given "config") (overrides given)
  else if name = "init" then do
    let given ← readOptions initOptions [] none words
    return init ((path? given "output").getD "vk-cereal.toml") (given.lookup "force").isSome
  else if name = "validate" then do
    let given ← readOptions validateOptions [] none words
    return validate (← schema given) (path? given "config") (overrides given)
  else if name = "help" then
    match words with
    | [] => .error .help
    | [topic] => .error (if topic ∈ names then .help else .misuse)
    | _ => .error .misuse
  else .error .misuse

/-- Reads the letters of the tool's own options. -/
def readToolLetters : List Char → Except UsageStop Unit
  | [] => .ok ()
  | 'v' :: rest => readToolLetters rest
  | 'h' :: _ => .error .help
  | 'V' :: _ => .error .version
  | _ => .error .misuse

/-- The command that a whole line gives. -/
def parse : List String → Except UsageStop Command
  | [] => .error .misuse
  | word :: rest =>
    match Word.ofText word with
    | .plain name => ofSubcommand name rest
    | .terminator => .error .misuse
    | .short letters => do
      readToolLetters letters
      parse rest
    | .long name value =>
      if value.isSome then .error .misuse
      else if name = "verbose" then parse rest
      else if name = "help" then .error .help
      else if name = "version" then .error .version
      else .error .misuse

end Command

end VulkanWire
