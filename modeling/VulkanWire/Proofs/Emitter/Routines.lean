import Mathlib.Data.List.Basic
import VulkanWire.Emitter.Standard

/-!
# Routines that call each other

Marshaling, deep copies and transformations generate routines for every struct
they are told of, and the routine of a struct calls those of the structs nested
in it. Which members count as nested is decided by the registry; what is
declared, by what the emitter is told. Here is what each of the three says about
one struct: its routines call the nested ones by name, and its header text
declares them or, for an alias, defines them as those of its target.

## Main definitions

* `EmitterKind.stems` — how the names of a struct's routines start.
* `EmitterKind.nestedTypes` — the structs whose routines a struct's routines call.
* `Calls`, `Declares` — what is looked for in generated text.

## Main results

* `exists_calls` — a struct's routines call those of the structs nested in it.
* `declares_answer` — and they are declared where the struct is told.
-/

namespace VulkanWire

/-! ## Parts of texts -/

/-- A part stands somewhere in a text. -/
def Within (part text : String) : Prop := part.toList <:+: text.toList

instance (part text : String) : Decidable (Within part text) :=
  inferInstanceAs (Decidable (part.toList <:+: text.toList))

namespace Within

variable {part text : String}

theorem of_eq (before after : String) (h : text = before ++ part ++ after) : Within part text :=
  ⟨before.toList, after.toList, by rw [h, String.toList_append, String.toList_append]⟩

theorem refl (text : String) : Within text text := List.infix_rfl

theorem trans {whole : String} (h : Within part text) (h' : Within text whole) :
    Within part whole :=
  List.IsInfix.trans h h'

theorem append_left (h : Within part text) (more : String) : Within part (text ++ more) :=
  h.trans (of_eq "" more (by rw [String.empty_append]))

theorem append_right (h : Within part text) (more : String) : Within part (more ++ text) :=
  h.trans (of_eq more "" (by rw [String.append_empty]))

theorem join {texts : List String} (h : Within part text) (hmem : text ∈ texts) :
    Within part (String.join texts) := by
  rw [Within, String.toList_join, List.flatMap_def]
  exact List.IsInfix.trans h (List.infix_of_mem_flatten (List.mem_map_of_mem hmem))

theorem lines {ls : List String} (h : Within part text) (hmem : text ∈ ls) :
    Within part (lines ls) :=
  (h.append_left "\n").join (List.mem_map_of_mem hmem)

end Within

/-- A statement of a text calls a routine. -/
def Calls (text routine : String) : Prop := Within ("    " ++ routine ++ "(") text

/-- A text is the signature of a routine with some parameters. -/
def IsSignature (routine text : String) : Prop :=
  ∃ params, text = "void " ++ routine ++ "(" ++ params ++ ")"

/-- A text declares a routine, or defines its name as that of another one. -/
def Declares (text routine : String) : Prop :=
  (∃ signature, IsSignature routine signature ∧ Within (signature ++ ";\n\n") text) ∨
    ∃ target, Within ("#define " ++ routine ++ " " ++ target ++ "\n\n") text

/-- A text implements a routine by a body. -/
def Implements (text routine body : String) : Prop :=
  ∃ signature, IsSignature routine signature ∧
    Within (signature ++ " \x7b\n" ++ body ++ "\x7d\n\n") text

section

variable {text whole routine body : String}

theorem Calls.trans (h : Calls text routine) (h' : Within text whole) : Calls whole routine :=
  Within.trans h h'

theorem Declares.trans (h : Declares text routine) (h' : Within text whole) :
    Declares whole routine := by
  rcases h with ⟨signature, hsignature, h⟩ | ⟨target, h⟩
  · exact .inl ⟨signature, hsignature, h.trans h'⟩
  · exact .inr ⟨target, h.trans h'⟩

theorem Implements.trans (h : Implements text routine body) (h' : Within text whole) :
    Implements whole routine body := by
  obtain ⟨signature, hsignature, h⟩ := h
  exact ⟨signature, hsignature, h.trans h'⟩

/-- A text that declares a routine names it. -/
theorem Declares.named (h : Declares text routine) : Within routine text := by
  rcases h with ⟨signature, ⟨params, rfl⟩, h⟩ | ⟨target, h⟩
  · refine Within.trans (Within.of_eq "void " ("(" ++ params ++ ")" ++ ";\n\n") ?_) h
    simp only [String.append_assoc]
  · refine Within.trans (Within.of_eq "#define " (" " ++ target ++ "\n\n") ?_) h
    simp only [String.append_assoc]

/-! Generated text runs the fixed words before a name into one with its stem, and those after it
into one with what follows. -/

/-- A line that names a routine after an indentation and before a bracket calls it. -/
theorem calls_line (head stem opening : String)
    (hhead : ∃ before, head = before ++ "    " ++ stem) (hopening : ∃ args, opening = "(" ++ args)
    (name rest : String) : Calls (head ++ name ++ opening ++ rest) (stem ++ name) := by
  obtain ⟨before, rfl⟩ := hhead
  obtain ⟨args, rfl⟩ := hopening
  exact Within.of_eq before (args ++ rest) (by simp only [String.append_assoc])

theorem isSignature_line (head stem opening closing : String) (hhead : head = "void " ++ stem)
    (hopening : ∃ first, opening = "(" ++ first) (hclosing : ∃ last, closing = last ++ ")")
    (name rest : String) :
    IsSignature (stem ++ name) (head ++ name ++ opening ++ rest ++ closing) := by
  obtain ⟨first, rfl⟩ := hopening
  obtain ⟨last, rfl⟩ := hclosing
  exact ⟨first ++ rest ++ last, by simp only [hhead, String.append_assoc]⟩

theorem declares_line (head stem between : String) (hhead : head = "#define " ++ stem)
    (hbetween : ∃ start, between = " " ++ start) (name rest : String) :
    Declares (head ++ name ++ between ++ rest ++ "\n\n") (stem ++ name) := by
  obtain ⟨start, rfl⟩ := hbetween
  refine .inr ⟨start ++ rest, Within.of_eq "" "" ?_⟩
  simp only [hhead, String.append_assoc, String.empty_append, String.append_empty]

end

/-! ## Nested structs -/

/-- The struct whose routine an operation calls. -/
def StreamOp.nestedType? : StreamOp → Option String
  | nested type _ _ => some type
  | _ => none

/-- The struct whose routine a step calls. -/
def CopyStep.nestedType? : CopyStep → Option String
  | nestedValue type _ => some type
  | nestedArray type _ _ => some type
  | _ => none

namespace EmitterKind

/-- How the names of a struct's routines start. -/
def stems : EmitterKind → List String
  | marshaling => Direction.both.map (·.verb ++ "_")
  | deepCopy => ["deepcopy_"]
  | transform => Transform.directions.map ("transform_" ++ · ++ "_")
  | _ => []

/-- The structs whose routines a struct's routines call, given the definitions known. -/
def nestedTypes (r : Registry) (d : StructDef) : EmitterKind → List String
  | marshaling => (Marshaling.operations r d).filterMap StreamOp.nestedType?
  | deepCopy => (DeepCopy.steps r d).filterMap CopyStep.nestedType?
  | transform => (Transform.nested r d).map (·.type)
  | _ => []

/-- The kinds that generate routines of structs. -/
def routineKinds : List EmitterKind := [.marshaling, .deepCopy, .transform]

end EmitterKind

/-! ## Calls -/

theorem StreamOp.calls_render {op : StreamOp} {type : String} (h : op.nestedType? = some type)
    (dir : Direction) : Calls (op.render dir) (dir.verb ++ "_" ++ type) := by
  cases op with
  | nested type' field shape =>
      cases h
      have hopening : ∃ args, "(vkStream, rootType, (" = "(" ++ args :=
        ⟨"vkStream, rootType, (", rfl⟩
      unfold render
      cases shape with
      | embedded =>
          have hcall := calls_line ("    " ++ dir.verb) dir.verb "(vkStream, rootType, (" ⟨"", rfl⟩
            hopening ("_" ++ type) (type ++ "*)(&" ++ dir.subject ++ "->" ++ field ++ "));\n")
          simpa only [toString, String.append_assoc] using hcall
      | pointee =>
          have hcall := calls_line ("    " ++ dir.verb) dir.verb "(vkStream, rootType, (" ⟨"", rfl⟩
            hopening ("_" ++ type) (type ++ "*)(" ++ dir.subject ++ "->" ++ field ++ "));\n")
          simpa only [toString, String.append_assoc] using hcall
      | counted len =>
          have hcall := calls_line ("        " ++ dir.verb) dir.verb "(vkStream, rootType, ("
            ⟨"    ", rfl⟩ hopening ("_" ++ type)
            (type ++ "*)(" ++ dir.subject ++ "->" ++ field ++ " + i));")
          simp only [toString, String.append_assoc] at hcall ⊢
          exact Within.lines hcall (List.mem_of_getElem? (i := 1) rfl)
  | extensionChain => cases h
  | handle type' field slot => cases h
  | text field => cases h
  | bytes type' field shape => cases h

theorem CopyStep.calls_render {step : CopyStep} {type : String} (h : step.nestedType? = some type) :
    Calls step.render ("deepcopy_" ++ type) := by
  cases step with
  | nestedValue type' field =>
      cases h
      have hcall := calls_line "    deepcopy_" "deepcopy_" "(alloc, rootType, &from->"
        ⟨"", rfl⟩ ⟨"alloc, rootType, &from->", rfl⟩ type
        (field ++ ", (" ++ type ++ "*)(&to->" ++ field ++ "));\n")
      unfold render
      simpa only [toString, String.append_assoc] using hcall
  | nestedArray type' field count =>
      cases h
      have hcall := calls_line "                deepcopy_" "deepcopy_" "(alloc, rootType, from->"
        ⟨"            ", rfl⟩ ⟨"alloc, rootType, from->", rfl⟩ type
        (field ++ " + i, (" ++ type ++ "*)(to->" ++ field ++ " + i));")
      unfold render
      simp only [toString, String.append_assoc] at hcall ⊢
      exact Within.lines hcall (List.mem_of_getElem? (i := 5) rfl)
  | extensionChain => cases h
  | text field => cases h
  | array type' field count => cases h

theorem Transform.Nested.calls_render (n : Transform.Nested) (direction : String) :
    Calls (n.render direction) ("transform_" ++ direction ++ "_" ++ n.type) := by
  obtain ⟨type, field, shape⟩ := n
  have hopening : ∃ args, "(resourceTracker, (" = "(" ++ args := ⟨"resourceTracker, (", rfl⟩
  unfold render
  cases shape with
  | embedded =>
      have hcall := calls_line "    transform_" "transform_" "(resourceTracker, (" ⟨"", rfl⟩
        hopening (direction ++ "_" ++ type) (type ++ "*)(&toTransform->" ++ field ++ "));\n")
      simpa only [toString, String.append_assoc] using hcall
  | pointee =>
      have hcall := calls_line "        transform_" "transform_" "(resourceTracker, (" ⟨"    ", rfl⟩
        hopening (direction ++ "_" ++ type) (type ++ "*)(toTransform->" ++ field ++ "));")
      simp only [toString, String.append_assoc] at hcall ⊢
      exact Within.lines hcall (List.mem_of_getElem? (i := 1) rfl)
  | counted len =>
      have hcall := calls_line "            transform_" "transform_" "(resourceTracker, ("
        ⟨"        ", rfl⟩ hopening (direction ++ "_" ++ type)
        (type ++ "*)(toTransform->" ++ field ++ " + i));")
      simp only [toString, String.append_assoc] at hcall ⊢
      exact Within.lines hcall (List.mem_of_getElem? (i := 2) rfl)

/-! ## What counts as nested -/

theorem StreamOp.exists_of_mem_ofMembers {r : Registry} {slot : Nat} {ms : List Member}
    {op : StreamOp} (h : op ∈ ofMembers r slot ms) :
    ∃ m ∈ ms, ∃ slot', op = ofMember r slot' m := by
  induction ms generalizing slot with
  | nil => cases h
  | cons m ms ih =>
      rw [ofMembers, List.mem_cons] at h
      rcases h with rfl | h
      · exact ⟨m, List.mem_cons_self, slot, rfl⟩
      · obtain ⟨m', hm', hop⟩ := ih h
        exact ⟨m', List.mem_cons_of_mem _ hm', hop⟩

theorem StreamOp.isStruct_of_nestedType? {r : Registry} {slot : Nat} {m : Member} {type : String}
    (h : (ofMember r slot m).nestedType? = some type) :
    m.typeName = type ∧ r.isStruct type = true := by
  unfold ofMember at h
  split at h
  · cases h
  split at h
  · cases h
  split at h
  · rename_i hstruct
    cases h
    exact ⟨rfl, hstruct⟩
  split at h <;> cases h

theorem CopyStep.isStruct_of_nestedType? {r : Registry} {m : Member} {step : CopyStep}
    {type : String} (hstep : ofMember? r m = some step) (h : step.nestedType? = some type) :
    m.typeName = type ∧ r.isStruct type = true := by
  unfold ofMember? at hstep
  split at hstep
  · cases hstep
    cases h
  split at hstep
  · split at hstep
    · rename_i hstruct
      cases hstep
      cases h
      exact ⟨rfl, hstruct⟩
    · cases hstep
  split at hstep
  · cases hstep
    cases h
  split at hstep
  · cases hstep
  split at hstep
  · rename_i hstruct
    cases hstep
    cases h
    exact ⟨rfl, hstruct⟩
  · cases hstep
    cases h

/-- Nested are only members whose type the registry finds to be a struct. -/
theorem EmitterKind.exists_of_mem_nestedTypes {kind : EmitterKind} {r : Registry} {d : StructDef}
    {type : String} (h : type ∈ kind.nestedTypes r d) :
    ∃ m ∈ d.members, m.typeName = type ∧ r.isStruct type = true := by
  cases kind with
  | marshaling =>
      obtain ⟨op, hop, hnested⟩ := List.mem_filterMap.mp h
      obtain ⟨m, hm, slot, rfl⟩ := StreamOp.exists_of_mem_ofMembers hop
      exact ⟨m, hm, StreamOp.isStruct_of_nestedType? hnested⟩
  | deepCopy =>
      obtain ⟨step, hstep, hnested⟩ := List.mem_filterMap.mp h
      obtain ⟨m, hm, hmember⟩ := List.mem_filterMap.mp hstep
      exact ⟨m, hm, CopyStep.isStruct_of_nestedType? hmember hnested⟩
  | transform =>
      obtain ⟨n, hn, rfl⟩ := List.mem_map.mp h
      obtain ⟨m, hm, hmember⟩ := List.mem_filterMap.mp hn
      rw [Transform.Nested.ofMember?, Option.ite_none_right_eq_some] at hmember
      obtain ⟨hstruct, hmember⟩ := hmember
      cases hmember
      exact ⟨m, hm, rfl, hstruct⟩
  | extensionStructs => cases h
  | dispatch => cases h
  | functionTable => cases h
  | encoder => cases h
  | decoder => cases h
  | structureType => cases h

/-! ## The routines of a struct -/

theorem Emission.within_concat {e : Emission} {es : List Emission} (h : e ∈ es) :
    Within e.header (concat es).header ∧ Within e.implementation (concat es).implementation :=
  ⟨Within.join (Within.refl _) (List.mem_map_of_mem h),
    Within.join (Within.refl _) (List.mem_map_of_mem h)⟩

namespace Marshaling

variable (s : Side) (r : Registry) {d : StructDef} {dir : Direction}

theorem isSignature (dir : Direction) (name : String) :
    IsSignature (dir.verb ++ "_" ++ name) (signature s dir name) := by
  have hline := isSignature_line ("void " ++ dir.verb) dir.verb "(\n    " ")" rfl ⟨"\n    ", rfl⟩
    ⟨"", rfl⟩ ("_" ++ name) (s.streamType ++ "* vkStream,\n    VkStructureType rootType,\n    " ++
      dir.qualifier ++ name ++ "* " ++ dir.subject)
  unfold signature
  simpa only [toString, String.append_assoc] using hline

theorem declares_ofStruct (hdir : dir ∈ Direction.both) (d : StructDef) :
    Declares (ofStruct s r d).header (dir.verb ++ "_" ++ d.name) := by
  unfold ofStruct
  cases d.aliasOf with
  | none =>
      have hdeclared : Declares (routine s r d dir).header (dir.verb ++ "_" ++ d.name) :=
        .inl ⟨_, isSignature s dir d.name, Within.refl _⟩
      exact hdeclared.trans (Emission.within_concat (List.mem_map_of_mem hdir)).1
  | some target =>
      have hline := declares_line ("#define " ++ dir.verb) dir.verb " " rfl ⟨"", rfl⟩
        ("_" ++ d.name) (dir.verb ++ "_" ++ target)
      have hdeclared : Declares (rename d.name target dir).header (dir.verb ++ "_" ++ d.name) := by
        simpa only [rename, Emission.inHeader, toString, String.append_assoc] using hline
      exact hdeclared.trans (Emission.within_concat (List.mem_map_of_mem hdir)).1

theorem implements_ofStruct (hdir : dir ∈ Direction.both) (h : d.aliasOf = none) :
    Implements (ofStruct s r d).implementation (dir.verb ++ "_" ++ d.name) (body r dir d) := by
  have himplements : Implements (routine s r d dir).implementation (dir.verb ++ "_" ++ d.name)
      (body r dir d) :=
    ⟨_, isSignature s dir d.name, Within.refl _⟩
  unfold ofStruct
  rw [h]
  exact himplements.trans (Emission.within_concat (List.mem_map_of_mem hdir)).2

theorem calls_body {type : String} (h : type ∈ EmitterKind.marshaling.nestedTypes r d)
    (dir : Direction) : Calls (body r dir d) (dir.verb ++ "_" ++ type) := by
  obtain ⟨op, hop, hnested⟩ := List.mem_filterMap.mp h
  have hcall := StreamOp.calls_render hnested dir
  exact (Within.join hcall (List.mem_map_of_mem hop)).append_right _

end Marshaling

namespace DeepCopy

variable (r : Registry) {d : StructDef}

theorem isSignature (name : String) : IsSignature ("deepcopy_" ++ name) (signature name) := by
  have hline := isSignature_line "void deepcopy_" "deepcopy_"
    "(\n    Allocator* alloc,\n    VkStructureType rootType,\n    const " "* to)" rfl
    ⟨"\n    Allocator* alloc,\n    VkStructureType rootType,\n    const ", rfl⟩ ⟨"* to", rfl⟩ name
    (name ++ "* from,\n    " ++ name)
  unfold signature
  simpa only [toString, String.append_assoc] using hline

theorem declares_ofStruct (d : StructDef) :
    Declares (ofStruct r d).header ("deepcopy_" ++ d.name) := by
  unfold ofStruct
  cases d.aliasOf with
  | none => exact .inl ⟨_, isSignature d.name, Within.refl _⟩
  | some target =>
      have hline := declares_line "#define deepcopy_" "deepcopy_" " deepcopy_" rfl
        ⟨"deepcopy_", rfl⟩ d.name target
      simpa only [Emission.inHeader, toString, String.append_assoc] using hline

theorem implements_ofStruct (h : d.aliasOf = none) :
    Implements (ofStruct r d).implementation ("deepcopy_" ++ d.name) (body r d) := by
  unfold ofStruct
  rw [h]
  exact ⟨_, isSignature d.name, Within.refl _⟩

theorem calls_body {type : String} (h : type ∈ EmitterKind.deepCopy.nestedTypes r d) :
    Calls (body r d) ("deepcopy_" ++ type) := by
  obtain ⟨step, hstep, hnested⟩ := List.mem_filterMap.mp h
  have hcall := CopyStep.calls_render hnested
  exact (Within.join hcall (List.mem_map_of_mem hstep)).append_right _

end DeepCopy

namespace Transform

variable (tracker : String) (r : Registry) {d : StructDef} {direction : String}

theorem isSignature (direction name : String) :
    IsSignature ("transform_" ++ direction ++ "_" ++ name) (signature tracker direction name) := by
  have hline := isSignature_line "void transform_" "transform_" "(\n    " "* toTransform)" rfl
    ⟨"\n    ", rfl⟩ ⟨"* toTransform", rfl⟩ (direction ++ "_" ++ name)
    (tracker ++ "* resourceTracker,\n    " ++ name)
  unfold signature
  simpa only [toString, String.append_assoc] using hline

theorem declares_ofStruct (hdirection : direction ∈ directions) (d : StructDef) :
    Declares (ofStruct tracker r d).header ("transform_" ++ direction ++ "_" ++ d.name) := by
  unfold ofStruct
  cases d.aliasOf with
  | none =>
      have hdeclared : Declares (routine tracker r d direction).header
          ("transform_" ++ direction ++ "_" ++ d.name) :=
        .inl ⟨_, isSignature tracker direction d.name, Within.refl _⟩
      exact hdeclared.trans (Emission.within_concat (List.mem_map_of_mem hdirection)).1
  | some target =>
      have hline := declares_line "#define transform_" "transform_" " transform_" rfl
        ⟨"transform_", rfl⟩ (direction ++ "_" ++ d.name) (direction ++ "_" ++ target)
      have hdeclared : Declares (rename d.name target direction).header
          ("transform_" ++ direction ++ "_" ++ d.name) := by
        simpa only [rename, Emission.inHeader, toString, String.append_assoc] using hline
      exact hdeclared.trans (Emission.within_concat (List.mem_map_of_mem hdirection)).1

theorem implements_ofStruct (hdirection : direction ∈ directions) (h : d.aliasOf = none) :
    Implements (ofStruct tracker r d).implementation ("transform_" ++ direction ++ "_" ++ d.name)
      (body r direction d) := by
  have himplements : Implements (routine tracker r d direction).implementation
      ("transform_" ++ direction ++ "_" ++ d.name) (body r direction d) :=
    ⟨_, isSignature tracker direction d.name, Within.refl _⟩
  unfold ofStruct
  rw [h]
  exact himplements.trans (Emission.within_concat (List.mem_map_of_mem hdirection)).2

theorem calls_body {type : String} (h : type ∈ EmitterKind.transform.nestedTypes r d)
    (direction : String) :
    Calls (body r direction d) ("transform_" ++ direction ++ "_" ++ type) := by
  obtain ⟨n, hn, rfl⟩ := List.mem_map.mp h
  have hcall := Nested.calls_render n direction
  exact (Within.join hcall (List.mem_map_of_mem hn)).append_right _

end Transform

namespace StandardEmitter

variable {e : StandardEmitter} {stem : String}

/-- The routines of a struct that an emitter is told of are declared. -/
theorem declares_answer (hstem : stem ∈ e.kind.stems) (r : Registry) (d : StructDef) :
    Declares (e.respond r (.element (.struct d))).1.header (stem ++ d.name) := by
  cases e with
  | marshaling state =>
      obtain ⟨dir, hdir, rfl⟩ := List.mem_map.mp hstem
      exact Marshaling.declares_ofStruct state.side r hdir d
  | deepCopy =>
      cases List.mem_singleton.mp hstem
      exact DeepCopy.declares_ofStruct r d
  | transform tracker =>
      obtain ⟨direction, hdirection, rfl⟩ := List.mem_map.mp hstem
      exact Transform.declares_ofStruct tracker r hdirection d
  | extensionStructs => cases hstem
  | dispatch state => cases hstem
  | functionTable state => cases hstem
  | encoder state => cases hstem
  | decoder => cases hstem
  | structureType values => cases hstem

/-- Unless the struct is an alias, they are implemented, and each calls the routines with the same
stem of all nested structs. -/
theorem exists_calls (hstem : stem ∈ e.kind.stems) (r : Registry) {d : StructDef}
    (h : d.aliasOf = none) :
    ∃ body, Implements (e.respond r (.element (.struct d))).1.implementation (stem ++ d.name) body ∧
      ∀ type ∈ e.kind.nestedTypes r d, Calls body (stem ++ type) := by
  cases e with
  | marshaling state =>
      obtain ⟨dir, hdir, rfl⟩ := List.mem_map.mp hstem
      exact ⟨_, Marshaling.implements_ofStruct state.side r hdir h,
        fun _ htype => Marshaling.calls_body r htype dir⟩
  | deepCopy =>
      cases List.mem_singleton.mp hstem
      exact ⟨_, DeepCopy.implements_ofStruct r h, fun _ htype => DeepCopy.calls_body r htype⟩
  | transform tracker =>
      obtain ⟨direction, hdirection, rfl⟩ := List.mem_map.mp hstem
      exact ⟨_, Transform.implements_ofStruct tracker r hdirection h,
        fun _ htype => Transform.calls_body r htype direction⟩
  | extensionStructs => cases hstem
  | dispatch state => cases hstem
  | functionTable state => cases hstem
  | encoder state => cases hstem
  | decoder => cases hstem
  | structureType values => cases hstem

end StandardEmitter

end VulkanWire
