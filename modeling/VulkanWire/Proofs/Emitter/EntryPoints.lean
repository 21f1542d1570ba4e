import Mathlib.Data.List.Induction
import VulkanWire.Emitter.Standard
import VulkanWire.Proofs.Generator.Hearing

/-!
# The functions of a function table

What a function table says in a whole run is C++ source made of function
definitions alone: the routine that reports an unsupported call, the entry
points of the commands it is told of, and the two look-up routines, which go
through the features that admit it. Here the functions are computed from the
schema, without the emitter.

## Main definitions

* `FunctionDefinition` — a function of C++ with its text.
* `Introduction.entryPoints`, `Schema.entryPoints` — the entry points of a
  definition, and of all definitions that a function table is told of.
* `Schema.lookupBlocks` — the blocks of a look-up routine.

## Main results

* `says_cues`, `says_features` — what a function table says, feature by feature.
* `implementation_answers` — what it says in a run.
* `checkedName_mem_iff` — which commands get an entry point with a check.
-/

namespace VulkanWire

/-! ## Function definitions -/

/-- A function definition of C++. -/
structure FunctionDefinition where
  /-- What stands before the name. -/
  result : String
  name : String
  parameters : String
  /-- The statements, in whole lines. -/
  body : String
deriving DecidableEq, Repr

namespace FunctionDefinition

def text (f : FunctionDefinition) : String :=
  f.result ++ " " ++ f.name ++ "(" ++ f.parameters ++ ") \x7b\n" ++ f.body ++ "\x7d\n"

/-- The text of functions, one after the other. -/
def texts (fs : List FunctionDefinition) : String := String.join (fs.map text)

theorem texts_append (fs gs : List FunctionDefinition) : texts (fs ++ gs) = texts fs ++ texts gs := by
  rw [texts, List.map_append, String.join_append]
  rfl

end FunctionDefinition

namespace FunctionTable

/-- The routine that reports an unsupported call. -/
def reportFunction : FunctionDefinition where
  result := "static void"
  name := "sOnInvalidDynamicallyCheckedCall"
  parameters := "const char* apiname, const char* neededFeature"
  body := lines [
    "    ALOGE(\"invalid call to %s: %s not supported\", apiname, neededFeature);",
    "    abort();"]

/-- The entry point of a command. -/
def entryFunction (d : CommandDef) : FunctionDefinition where
  result := "static " ++ d.returnType
  name := entryName d.name
  parameters := d.parameterList
  body := fetchEncoder d ++ forward d

/-- The entry point of a command that asks for an extension first. -/
def checkedFunction (d : CommandDef) (feature : String) : FunctionDefinition where
  result := "static " ++ d.returnType
  name := checkedName d.name
  parameters := d.parameterList
  body := lines [
      "    auto resources = ResourceTracker::get();",
      "    if (!resources->hasDeviceExtension(" ++ deviceParameter d ++ ", \"" ++ feature ++ "\")) \x7b",
      "        sOnInvalidDynamicallyCheckedCall(\"" ++ d.name ++ "\", \"" ++ feature ++ "\");",
      "    \x7d"] ++
    fetchEncoder d ++ forward d

/-- A look-up routine: in the guard of each feature, one comparison for each of its commands. -/
def lookupFunction (name : String) (blocks : List LookupBlock) : FunctionDefinition where
  result := "void*"
  name := name
  parameters := "const char* name"
  body := String.join (blocks.map fun b =>
      "#ifdef " ++ b.feature ++ "\n" ++
        String.join (b.entries.map fun e =>
          "    if (!strcmp(name, \"" ++ e.command ++ "\")) \x7b\n        return (void*)" ++
            e.entryPoint ++ ";\n    \x7d\n") ++
        "#endif\n") ++
    "    return nullptr;\n"

theorem implementation_opening : opening.implementation = reportFunction.text ++ "\n" := by
  simp [opening, FunctionDefinition.text, reportFunction, lines_cons, lines_nil]

theorem text_entryFunction (d : CommandDef) : (entryFunction d).text = entryPoint d := by
  unfold FunctionDefinition.text entryFunction entryPoint
  simp only [toString, String.append_assoc]

theorem text_checkedFunction (d : CommandDef) (feature : String) :
    (checkedFunction d feature).text = checkedEntryPoint d feature := by
  have hbrace : (") \x7b\n" : String) = ") \x7b" ++ "\n" := by decide
  simp only [FunctionDefinition.text, checkedFunction, checkedEntryPoint, lines_cons, toString,
    hbrace, String.append_assoc]

theorem text_lookupFunction (name : String) (blocks : List LookupBlock) :
    (lookupFunction name blocks).text = lookupRoutine name blocks := by
  have hentry : renderEntry = fun e => "    if (!strcmp(name, \"" ++ e.command ++
      "\")) \x7b\n        return (void*)" ++ e.entryPoint ++ ";\n    \x7d\n" := by
    funext e
    unfold renderEntry
    apply String.toList_injective
    simp [lines_cons, lines_nil, toString]
  have hblock : renderBlock = fun b => "#ifdef " ++ b.feature ++ "\n" ++
      String.join (b.entries.map renderEntry) ++ "#endif\n" := rfl
  rw [lookupRoutine, hblock, hentry]
  unfold FunctionDefinition.text lookupFunction
  apply String.toList_injective
  simp [toString]

/-! ## Names -/

theorem entryName_eq (c : String) : entryName c = "entry_" ++ c := rfl

theorem checkedName_eq (c : String) : checkedName c = "dynCheck_entry_" ++ c := rfl

theorem entryName_injective : Function.Injective entryName := by
  intro c c' h
  rwa [entryName_eq, entryName_eq, String.append_right_inj] at h

theorem checkedName_injective : Function.Injective checkedName := by
  intro c c' h
  rwa [checkedName_eq, checkedName_eq, String.append_right_inj] at h

/-- Names that start with different characters are different. -/
theorem ne_of_head?_ne {name other : String} (h : name.toList.head? ≠ other.toList.head?) :
    name ≠ other := fun heq => h (by rw [heq])

theorem head?_entryName (c : String) : (entryName c).toList.head? = some 'e' := by
  simp [entryName_eq]

theorem head?_checkedName (c : String) : (checkedName c).toList.head? = some 'd' := by
  simp [checkedName_eq]

theorem entryName_ne_checkedName (c c' : String) : entryName c ≠ checkedName c' :=
  ne_of_head?_ne (by rw [head?_entryName, head?_checkedName]; decide)

end FunctionTable

open FunctionTable

/-! ## What a function table says -/

/-- The entry points of a definition: one for a command that is no alias, and a second one if the
command needs a check. -/
def Introduction.entryPoints (i : Introduction) : List FunctionDefinition :=
  match i.definition with
  | .command d =>
    if d.aliasOf.isSome then []
    else if needsCheck i.registry i.feature.kind d then
      [entryFunction d, checkedFunction d i.feature.name]
    else [entryFunction d]
  | _ => []

/-- The name of a command with two entry points, and nothing for any other definition. -/
def Introduction.checked (i : Introduction) : List String :=
  match i.definition with
  | .command d =>
    if !d.aliasOf.isSome && needsCheck i.registry i.feature.kind d then [d.name] else []
  | _ => []

/-- A feature with the commands that it requires, each once. -/
def Feature.requirement (f : Feature) : RequiredCommands := ⟨f.name, f.kind, f.require.eraseDups⟩

/-- The entry points of all commands that a function table is told of. -/
def Schema.entryPoints (s : Schema) (gate : FeatureGate) : List FunctionDefinition :=
  (s.introductions gate .functionTable).flatMap Introduction.entryPoints

/-- The blocks of a look-up routine, given where a command leads: one for each feature that admits
function tables and requires a command. -/
def Schema.lookupBlocks (s : Schema) (gate : FeatureGate) (lead : String → String) :
    List LookupBlock :=
  (s.features.filter fun f => (gate.evaluate f.name).admits .functionTable && f.require ≠ []).map
    fun f => ⟨f.name, f.require.eraseDups.map fun c => ⟨c, lead c⟩⟩

section Saying

variable (f : Feature) (before : List RequiredCommands) (checked : List String)

/-- A function table inside a feature, which is the last one it has entered. -/
def inside (before : List RequiredCommands) (f : Feature) (commands checked : List String) :
    StandardEmitter :=
  .functionTable ⟨before ++ [⟨f.name, f.kind, commands⟩], checked⟩

theorem addRequired_append (c : String) (before : List RequiredCommands) (b : RequiredCommands) :
    addRequired c (before ++ [b]) =
      before ++ [if c ∈ b.commands then b else { b with commands := b.commands ++ [c] }] := by
  induction before with
  | nil => rfl
  | cons b' before ih =>
      have hmore : before ++ [b] ≠ [] := by simp
      cases hrest : before ++ [b] with
      | nil => exact absurd hrest hmore
      | cons first rest =>
          rw [List.cons_append, List.cons_append, ← ih, hrest]
          rfl

/-- Told of the commands that a feature requires, a function table lists each once. -/
theorem says_require (r : Registry) (cs : List String) :
    Says (inside before f [] checked) (cs.map fun c => ⟨r, .requireCommand c⟩) ""
      (inside before f cs.eraseDups checked) := by
  induction cs using List.reverseRecOn with
  | nil => exact Says.nil _
  | append_singleton cs c ih =>
      have hlast : Says (inside before f cs.eraseDups checked) [⟨r, .requireCommand c⟩] ""
          (inside before f (cs ++ [c]).eraseDups checked) := by
        refine Says.single rfl ?_
        show StandardEmitter.functionTable ⟨addRequired c _, checked⟩ = _
        rw [addRequired_append, inside, eraseDups_append_singleton]
        split <;> rfl
      rw [List.map_append]
      exact ih.append hlast

/-- Inside a feature, the entry points of a command are those of its introduction there. -/
theorem ofCommand_inside (r : Registry) (d : CommandDef) (commands : List String) :
    ofCommand r d ⟨before ++ [⟨f.name, f.kind, commands⟩], checked⟩ =
      (.inImplementation (FunctionDefinition.texts (Introduction.entryPoints ⟨f, r, .command d⟩)),
        ⟨before ++ [⟨f.name, f.kind, commands⟩],
          checked ++ Introduction.checked ⟨f, r, .command d⟩⟩) := by
  have hlast : (before ++ [⟨f.name, f.kind, commands⟩] : List RequiredCommands).getLast? =
      some ⟨f.name, f.kind, commands⟩ := by simp
  by_cases halias : d.aliasOf.isSome = true
  · simp only [ofCommand, Introduction.entryPoints, Introduction.checked, halias, if_true]
    exact Prod.ext rfl (by simp)
  · simp only [ofCommand, hlast, Introduction.entryPoints, Introduction.checked, halias]
    by_cases hneeds : needsCheck r f.kind d = true
    · simp [hneeds, FunctionDefinition.texts, text_entryFunction, text_checkedFunction]
    · simp [hneeds, FunctionDefinition.texts, text_entryFunction]

/-- Told of a definition, a function table defines its entry points. -/
theorem says_introduction (r : Registry) (e : Element) (commands : List String) :
    Says (inside before f commands checked) [⟨r, .element e⟩]
      (FunctionDefinition.texts (Introduction.entryPoints ⟨f, r, e⟩))
      (inside before f commands (checked ++ Introduction.checked ⟨f, r, e⟩)) := by
  have hsilent : Says (inside before f commands checked) [⟨r, .element e⟩] ""
      (inside before f commands checked) →
      Introduction.entryPoints ⟨f, r, e⟩ = [] → Introduction.checked ⟨f, r, e⟩ = [] →
      Says (inside before f commands checked) [⟨r, .element e⟩]
        (FunctionDefinition.texts (Introduction.entryPoints ⟨f, r, e⟩))
        (inside before f commands (checked ++ Introduction.checked ⟨f, r, e⟩)) := by
    intro h hentries hchecked
    rw [hentries, hchecked, List.append_nil]
    exact h
  cases e with
  | command d =>
      have hcommand := ofCommand_inside f before checked r d commands
      refine Says.single ?_ ?_
      · exact congrArg (·.1.implementation) hcommand
      · exact congrArg (StandardEmitter.functionTable ·.2) hcommand
  | type d => exact hsilent (Says.single rfl rfl) rfl rfl
  | struct d => exact hsilent (Says.single rfl rfl) rfl rfl
  | group d => exact hsilent (Says.single rfl rfl) rfl rfl
  | enum d => exact hsilent (Says.single rfl rfl) rfl rfl

/-- So it is for all definitions of a feature. -/
theorem says_introduce (r : Registry) (es : List Element) (commands : List String) :
    Says (inside before f commands checked) (elementCues r es)
      (FunctionDefinition.texts ((f.introduce r es).flatMap Introduction.entryPoints))
      (inside before f commands (checked ++ (f.introduce r es).flatMap Introduction.checked)) := by
  induction es generalizing r checked with
  | nil =>
      rw [Feature.introduce, List.flatMap_nil, List.flatMap_nil, List.append_nil]
      exact Says.nil _
  | cons e es ih =>
      have hfirst := says_introduction f before checked (r.record e) e commands
      have hall := hfirst.append (ih _ (r.record e))
      rw [List.append_assoc, ← FunctionDefinition.texts_append] at hall
      rw [Feature.introduce, List.flatMap_cons, List.flatMap_cons]
      exact hall

/-- A function table that enters a feature defines its entry points and lists its commands. -/
theorem says_cues (f : Feature) (r : Registry) (before : List RequiredCommands)
    (checked : List String) :
    Says (StandardEmitter.functionTable ⟨before, checked⟩) (f.cues r)
      (FunctionDefinition.texts ((f.introductions r).flatMap Introduction.entryPoints))
      (.functionTable ⟨before ++ [f.requirement],
        checked ++ (f.introductions r).flatMap Introduction.checked⟩) := by
  have hrequire := says_require f before checked (r.beginFeature f.name f.kind) f.require
  have helements := says_introduce f before checked (r.beginFeature f.name f.kind) f.orderedElements
    f.require.eraseDups
  have hleave : Says (inside before f f.require.eraseDups
        (checked ++ (f.introductions r).flatMap Introduction.checked))
      [⟨(r.beginFeature f.name f.kind).recordAll f.orderedElements, .leaveFeature⟩] ""
      (.functionTable ⟨before ++ [f.requirement],
        checked ++ (f.introductions r).flatMap Introduction.checked⟩) :=
    Says.single rfl rfl
  have hall := hrequire.append (helements.append hleave)
  rw [String.empty_append, String.append_empty] at hall
  exact Says.silent rfl rfl hall

/-- So it does in every feature that admits it, and it hears of no other. -/
theorem says_features (gate : FeatureGate) (fs : List Feature) (r : Registry)
    (before : List RequiredCommands) (checked : List String) :
    Says (StandardEmitter.functionTable ⟨before, checked⟩)
      ((featurePassages gate r fs).flatMap (Passage.heard .functionTable))
      (FunctionDefinition.texts
        ((introductionsFrom gate .functionTable r fs).flatMap Introduction.entryPoints))
      (.functionTable ⟨before ++
          (fs.filter fun f => (gate.evaluate f.name).admits .functionTable).map Feature.requirement,
        checked ++ (introductionsFrom gate .functionTable r fs).flatMap Introduction.checked⟩) := by
  induction fs generalizing r before checked with
  | nil =>
      rw [introductionsFrom, List.filter_nil, List.map_nil, List.append_nil, List.flatMap_nil,
        List.flatMap_nil, List.append_nil]
      exact Says.nil _
  | cons f fs ih =>
      rw [heard_featurePassages_cons, introductionsFrom]
      by_cases hadmits : (gate.evaluate f.name).admits .functionTable = true
      · have hall := (says_cues f r before checked).append
          (ih (r.through gate f) (before ++ [f.requirement])
            (checked ++ (f.introductions r).flatMap Introduction.checked))
        rw [List.append_assoc, List.append_assoc, ← FunctionDefinition.texts_append,
          ← List.flatMap_append, ← List.flatMap_append] at hall
        rw [if_pos hadmits, if_pos hadmits, List.filter_cons_of_pos (by exact hadmits),
          List.map_cons]
        exact hall
      · rw [if_neg hadmits, if_neg hadmits, List.filter_cons_of_neg (by exact hadmits),
          List.nil_append, List.nil_append]
        exact ih (r.through gate f) before checked

end Saying

/-! ## What it says in a run -/

section Run

variable {s : Schema} {gate : FeatureGate} {i : Introduction} {t : String}

/-- A definition is a command of its own, introduced by a device extension, whose first parameter
is a device-level handle by then. -/
def Introduction.OnDevice (i : Introduction) (t : String) : Prop :=
  i.feature.kind = .deviceExtension ∧ ∃ d, i.definition = .command d ∧ d.name = t ∧
    d.aliasOf = none ∧ ∃ p rest, d.params = p :: rest ∧
      i.registry.isDeviceLevelHandle p.typeName = true

theorem needsCheck_iff {r : Registry} {kind : FeatureKind} {d : CommandDef} :
    needsCheck r kind d = true ↔ kind = .deviceExtension ∧
      ∃ p rest, d.params = p :: rest ∧ r.isDeviceLevelHandle p.typeName = true := by
  rw [needsCheck, Bool.and_eq_true, decide_eq_true_eq]
  refine and_congr_right fun _ => ?_
  cases hparams : d.params with
  | nil => simp [CommandDef.dispatchType?, hparams]
  | cons p rest => simp [CommandDef.dispatchType?, hparams]

/-- Exactly these definitions get a second entry point. -/
theorem mem_checked_iff : t ∈ i.checked ↔ i.OnDevice t := by
  rw [Introduction.checked, Introduction.OnDevice]
  cases hdefinition : i.definition with
  | command d =>
      have hbare : (!d.aliasOf.isSome) = true ↔ d.aliasOf = none := by simp
      rw [List.mem_ite_nil_right, Bool.and_eq_true, List.mem_singleton, hbare, needsCheck_iff]
      constructor
      · rintro ⟨⟨halias, hkind, hparams⟩, rfl⟩
        exact ⟨hkind, d, rfl, rfl, halias, hparams⟩
      · rintro ⟨hkind, d', hd', rfl, halias, hparams⟩
        cases hd'
        exact ⟨⟨halias, hkind, hparams⟩, rfl⟩
  | type d => simp
  | struct d => simp
  | group d => simp
  | enum d => simp

theorem checkedName_mem_entryPoints : checkedName t ∈ i.entryPoints.map (·.name) ↔ t ∈ i.checked := by
  rw [Introduction.entryPoints, Introduction.checked]
  cases i.definition with
  | command d =>
      have hentry : checkedName t ≠ entryName d.name := (entryName_ne_checkedName d.name t).symm
      have hchecked : checkedName t = checkedName d.name ↔ t = d.name :=
        checkedName_injective.eq_iff
      by_cases halias : d.aliasOf.isSome = true
      · simp [halias]
      · by_cases hneeds : needsCheck i.registry i.feature.kind d = true
        · simp [halias, hneeds, entryFunction, checkedFunction, hentry, hchecked]
        · simp [halias, hneeds, entryFunction, hentry]
  | type d => simp
  | struct d => simp
  | group d => simp
  | enum d => simp

/-- The commands that have an entry point with a check. -/
theorem checkedName_mem_iff :
    checkedName t ∈ (s.entryPoints gate).map (·.name) ↔
      ∃ i ∈ s.introductions gate .functionTable, i.OnDevice t := by
  rw [Schema.entryPoints, List.map_flatMap, List.mem_flatMap]
  refine exists_congr fun i => and_congr_right fun _ => ?_
  rw [checkedName_mem_entryPoints, mem_checked_iff]

/-- The entry point that a command leads to, given the registry in the end. -/
def Registry.entryOf (r : Registry) (command : String) : String := entryName (r.resolveAlias command)

/-- The entry point that a command leads to on a device: the one with a check, if it is defined. -/
def Schema.deviceEntryOf (s : Schema) (gate : FeatureGate) (r : Registry) (command : String) :
    String :=
  if checkedName (r.resolveAlias command) ∈ (s.entryPoints gate).map (·.name) then
    checkedName (r.resolveAlias command)
  else r.entryOf command

/-- The look-up routines, given the registry in the end: apart from their names, they differ in
where a command leads. -/
def Schema.lookupFunctions (s : Schema) (gate : FeatureGate) (r : Registry) :
    List FunctionDefinition :=
  [lookupFunction instanceLookup (s.lookupBlocks gate r.entryOf),
    lookupFunction deviceLookup (s.lookupBlocks gate (s.deviceEntryOf gate r))]

theorem lookups_requirements (r : Registry) (checked : List String) :
    lookups r checked ((s.features.filter fun f =>
        (gate.evaluate f.name).admits .functionTable).map Feature.requirement) =
      s.lookupBlocks gate fun c => (lookupEntry r checked c).entryPoint := by
  have hkept : ∀ f : Feature, decide (f.requirement.commands ≠ []) = decide (f.require ≠ []) := by
    intro f
    have hnone : f.require.eraseDups = [] ↔ f.require = [] := by
      simp only [List.eq_nil_iff_forall_not_mem, List.mem_eraseDups]
    exact decide_eq_decide.mpr (not_congr hnone)
  rw [lookups, List.filter_map, List.filter_filter, List.map_map, Schema.lookupBlocks]
  simp only [Function.comp_def, hkept, Bool.and_comm]
  rfl

theorem entryPoint_lookupEntry_nil (r : Registry) (c : String) :
    (lookupEntry r [] c).entryPoint = r.entryOf c := by
  simp [lookupEntry, Registry.entryOf]

theorem entryPoint_lookupEntry (r : Registry) (c : String) :
    (lookupEntry r ((s.introductions gate .functionTable).flatMap Introduction.checked)
      c).entryPoint = s.deviceEntryOf gate r c := by
  have hlisted : r.resolveAlias c ∈
        (s.introductions gate .functionTable).flatMap Introduction.checked ↔
      checkedName (r.resolveAlias c) ∈ (s.entryPoints gate).map (·.name) := by
    rw [checkedName_mem_iff, List.mem_flatMap]
    simp only [mem_checked_iff]
  exact if_congr hlisted rfl rfl

/-- When the file ends, a function table that has heard the schema defines the look-ups. -/
theorem implementation_closing (s : Schema) (gate : FeatureGate) (r : Registry) :
    (closing r ⟨(s.features.filter fun f =>
        (gate.evaluate f.name).admits .functionTable).map Feature.requirement,
      (s.introductions gate .functionTable).flatMap Introduction.checked⟩).implementation =
      FunctionDefinition.texts (s.lookupFunctions gate r) := by
  have htexts : ∀ f g : FunctionDefinition, FunctionDefinition.texts [f, g] = f.text ++ g.text := by
    intro f g
    simp [FunctionDefinition.texts]
  rw [Schema.lookupFunctions, htexts, text_lookupFunction, text_lookupFunction, closing,
    lookups_requirements, lookups_requirements]
  simp only [entryPoint_lookupEntry_nil, entryPoint_lookupEntry]
  rfl

/-- In a run, a function table says these functions. -/
theorem implementation_answers (s : Schema) (gate : FeatureGate) :
    (Piece.texts (s.answers gate (StandardEmitter.functionTable {}))).implementation =
      reportFunction.text ++ "\n" ++ FunctionDefinition.texts (s.entryPoints gate ++
        s.lookupFunctions gate (s.finalRegistry gate)) := by
  have hstart : (Cue.answer ⟨{}, .start⟩ (StandardEmitter.functionTable {})).implementation =
      reportFunction.text ++ "\n" :=
    implementation_opening
  have hfeatures := says_features gate s.features {} [] []
  rw [List.nil_append, List.nil_append] at hfeatures
  have hfinish := hfeatures.append
    (Says.single (c := ⟨s.finalRegistry gate, .finish⟩)
      (implementation_closing s gate (s.finalRegistry gate)) rfl)
  have hall := Says.cons hstart rfl hfinish
  rw [Schema.answers, show Emitter.kind (StandardEmitter.functionTable {}) = .functionTable from rfl,
    heard_eq, FunctionDefinition.texts_append]
  exact hall.text

end Run

end VulkanWire
