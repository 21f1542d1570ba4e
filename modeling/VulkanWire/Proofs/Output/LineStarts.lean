import VulkanWire.Proofs.Emitter.Routines
import VulkanWire.Proofs.Generator.History

/-!
# Guards at the start of a line

A preprocessor directive counts only at the start of a line. In the text that a
module gathers, guards stand there as long as everything else that is gathered
ends its last line. In the finished files the preamble comes first, and it has to
end its last line too. The one of the header always does. The one of the
implementation stops right behind the include of the module's own header when
neither extra text nor the namespace block follows it, and then the first thing
that is gathered shares the line of the include.

## Main definitions

* `EndsLine` — what is appended to a text starts a line.
* `OutputModule.play` — strokes, one after the other.
* `OutputModule.Places` — where a stroke stands in what is gathered and in the files.
* `ModuleSpec.LeavesIncludeOpen` — the declarations with the include at the end.

## Main results

* `endsLine_headerPreamble`, `endsLine_implPreamble_iff` — the two preambles.
* `OutputModule.strokes_start_lines` — where strokes stand in the finished files.
-/

namespace VulkanWire

/-! ## Texts that end their last line -/

/-- What is appended to a text starts a line: the text is empty or a line break ends it. -/
def EndsLine (text : String) : Prop := ∀ c ∈ text.toList.getLast?, c = '\n'

instance (text : String) : Decidable (EndsLine text) :=
  decidable_of_iff (text.toList.getLast?.all (· = '\n') = true)
    (by simp [EndsLine, Option.all_eq_true])

theorem endsLine_empty : EndsLine "" := by
  intro c hc
  cases hc

/-- Only the last of several texts counts, unless it is empty. -/
theorem endsLine_append_iff {a b : String} (hb : b ≠ "") : EndsLine (a ++ b) ↔ EndsLine b := by
  have hlast : b.toList.getLast?.isSome :=
    List.getLast?_isSome.mpr fun h => hb (String.toList_eq_nil_iff.mp h)
  obtain ⟨c, hc⟩ := Option.isSome_iff_exists.mp hlast
  simp only [EndsLine, String.toList_append, List.getLast?_append, hc, Option.some_or]

theorem EndsLine.append {a b : String} (ha : EndsLine a) (hb : EndsLine b) : EndsLine (a ++ b) := by
  by_cases h : b = ""
  · rw [h, String.append_empty]
    exact ha
  · exact (endsLine_append_iff h).mpr hb

theorem endsLine_line (text : String) : EndsLine (text ++ "\n") :=
  (endsLine_append_iff (by decide)).mpr (by decide)

theorem endsLine_lines (ls : List String) : EndsLine (lines ls) := by
  induction ls with
  | nil => exact endsLine_empty
  | cons l ls ih =>
      rw [lines, List.map_cons, String.join_cons]
      exact (endsLine_line l).append ih

/-! ## Preambles -/

/-- The include of a module's own header stands at the end of its implementation's preamble. -/
def ModuleSpec.LeavesIncludeOpen (s : ModuleSpec) : Prop :=
  s.implOnly = false ∧ s.extraImpl = "" ∧ s.useNamespace = false

section

variable {s : ModuleSpec} {commandLine : String}

theorem endsLine_headerPreamble :
    EndsLine (Preambles.ofSpec s (.ofCommand commandLine)).headerPreamble := by
  rw [Preambles.ofSpec]
  refine (endsLine_line _).append ?_
  split
  · exact endsLine_lines _
  · exact endsLine_empty

theorem implPreamble_of_leavesIncludeOpen (h : s.LeavesIncludeOpen) (t : PreambleTemplates) :
    (Preambles.ofSpec s t).implPreamble =
      t.copyright ++ t.banner s.basename "impl" ++ "\n" ++
        ("#include \"" ++ s.basename ++ ".h\"") := by
  obtain ⟨himpl, hextra, hnamespace⟩ := h
  have hline : "\n#include \"" = "\n" ++ "#include \"" := by decide
  simp only [Preambles.ofSpec, himpl, hextra, hnamespace, Bool.false_eq_true, if_false,
    String.append_empty, toString, hline, String.append_assoc]

/-- A text that stops right behind an include is still in its line. -/
theorem not_endsLine_include (before basename : String) :
    ¬ EndsLine (before ++ s!"\n#include \"{basename}.h\"") := by
  have hquote : s!"\n#include \"{basename}.h\"" = s!"\n#include \"{basename}" ++ ".h\"" := by
    simp only [toString, String.append_assoc]
  rw [hquote, ← String.append_assoc, endsLine_append_iff (by decide)]
  decide

/-- The preamble of an implementation ends its last line, unless the include is left open: what may
follow the include, the extra text and the namespace block, ends its own line. -/
theorem endsLine_implPreamble_iff (hextra : EndsLine s.extraImpl) :
    EndsLine (Preambles.ofSpec s (.ofCommand commandLine)).implPreamble ↔
      ¬ s.LeavesIncludeOpen := by
  have hbanner : EndsLine ((PreambleTemplates.ofCommand commandLine).copyright ++
      (PreambleTemplates.ofCommand commandLine).banner s.basename "impl") :=
    (endsLine_lines _).append (endsLine_lines _)
  rw [Preambles.ofSpec, ModuleSpec.LeavesIncludeOpen]
  cases s.useNamespace with
  | true =>
      have hopening : EndsLine (PreambleTemplates.ofCommand commandLine).namespaceBegin :=
        endsLine_lines _
      have hsome : (PreambleTemplates.ofCommand commandLine).namespaceBegin ≠ "" :=
        show PreambleTemplates.default.namespaceBegin ≠ "" by decide
      simpa using (endsLine_append_iff hsome).mpr hopening
  | false =>
      simp only [Bool.false_eq_true, if_false, String.append_empty, and_true]
      by_cases hempty : s.extraImpl = ""
      · rw [hempty, String.append_empty]
        cases s.implOnly with
        | true => simpa using hbanner
        | false => simpa using not_endsLine_include _ s.basename
      · simp only [endsLine_append_iff hempty, hextra, hempty, and_false, not_false_eq_true]

end

/-! ## Strokes, one after the other -/

namespace OutputModule

/-- A stroke on a module. -/
def draw (m : OutputModule) : Stroke → OutputModule
  | .opened feature => m.openGuard feature
  | .said text => m.take text
  | .closed => m.closeGuard

/-- Strokes on a module, one after the other. -/
def play (m : OutputModule) (strokes : List Stroke) : OutputModule := strokes.foldl draw m

theorem draw_eq_take (m : OutputModule) (stroke : Stroke) :
    m.draw stroke = m.take (stroke.text m.usesGuards) := by
  cases stroke with
  | opened feature => exact m.openGuard_eq_take feature
  | said text => rfl
  | closed => exact m.closeGuard_eq_take

theorem play_eq_take (m : OutputModule) (strokes : List Stroke) :
    m.play strokes = m.take (Stroke.texts m.usesGuards strokes) := by
  induction strokes generalizing m with
  | nil => exact m.take_silent.symm
  | cons stroke strokes ih =>
      rw [play, List.foldl_cons, ← play, ih, draw_eq_take, usesGuards_take, take_take,
        Stroke.texts, Stroke.texts, List.map_cons, Emission.concat_cons]

theorem preambles_play (m : OutputModule) (strokes : List Stroke) :
    (m.play strokes).preambles = m.preambles := by
  rw [play_eq_take, preambles_take]

/-- A module that declares nothing else gathers just the text of the strokes. -/
theorem text_play_ofSpec (s : ModuleSpec) (dir : Path) (t : PreambleTemplates)
    (strokes : List Stroke) :
    ((ofSpec s dir t).play strokes).text = Stroke.texts (!s.suppressFeatureGuards) strokes := by
  rw [play_eq_take, text_take_of_accepts rfl]
  exact Emission.silent_append _

end OutputModule

/-- What is gathered ends its last line, in both files. -/
structure Emission.EndsLines (e : Emission) : Prop where
  header : EndsLine e.header
  implementation : EndsLine e.implementation

namespace Stroke

/-- Guards always end their line. -/
theorem endsLines_text {stroke : Stroke} (h : ∀ text, stroke = .said text → text.EndsLines)
    (guarded : Bool) : (stroke.text guarded).EndsLines := by
  have hsilent : Emission.silent.EndsLines := ⟨endsLine_empty, endsLine_empty⟩
  cases stroke with
  | said text => exact h text rfl
  | opened feature =>
      cases guarded with
      | true => exact ⟨endsLine_line _, endsLine_line _⟩
      | false => exact hsilent
  | closed =>
      cases guarded with
      | true => exact ⟨endsLine_line "#endif", endsLine_line "#endif"⟩
      | false => exact hsilent

theorem endsLines_texts {strokes : List Stroke} (h : ∀ text, .said text ∈ strokes → text.EndsLines)
    (guarded : Bool) : (texts guarded strokes).EndsLines := by
  induction strokes with
  | nil => exact ⟨endsLine_empty, endsLine_empty⟩
  | cons stroke strokes ih =>
      have hfirst := stroke.endsLines_text (fun text htext => h text (by simp [htext])) guarded
      have hrest := ih fun text htext => h text (List.mem_cons_of_mem _ htext)
      rw [texts, List.map_cons, Emission.concat_cons]
      exact ⟨hfirst.header.append hrest.header, hfirst.implementation.append hrest.implementation⟩

end Stroke

/-! ## Strokes in the files -/

/-- A piece of a text stands right below what is above it. -/
def StandsBelow (above piece text : String) : Prop := ∃ below, text = above ++ piece ++ below

namespace StandsBelow

variable {above piece below text : String}

theorem of_eq (h : text = above ++ (piece ++ below)) : StandsBelow above piece text :=
  ⟨below, by rw [h, String.append_assoc]⟩

theorem between (h : StandsBelow above piece text) (pre post : String) :
    StandsBelow (pre ++ above) piece (pre ++ text ++ post) := by
  obtain ⟨below, rfl⟩ := h
  exact ⟨below ++ post, by simp only [String.append_assoc]⟩

end StandsBelow

/-- A piece of a text starts a line of it, below what is above it. -/
def StartsLine (above piece text : String) : Prop :=
  EndsLine above ∧ StandsBelow above piece text

namespace OutputModule

/-- A piece that a module gathered when it was as above: in what is gathered, and in the files. -/
structure Places (above : OutputModule) (piece : Emission) (m : OutputModule) : Prop where
  header : StartsLine above.header piece.header m.header
  implementation : StartsLine above.implementation piece.implementation m.implementation
  headerText : StartsLine (m.preambles.headerPreamble ++ above.header) piece.header m.headerText
  implText : StandsBelow (m.preambles.implPreamble ++ above.implementation)
    piece.implementation m.implText

variable (s : ModuleSpec) (dir : Path) (commandLine : String)

/-- Every stroke stands at the start of a line, the guards among them: in the text that is gathered,
in the header, and in the implementation unless it is the first thing after an include that is left
open. -/
theorem strokes_start_lines (hextra : EndsLine s.extraImpl) {before : List Stroke}
    (hsaid : ∀ text, .said text ∈ before → text.EndsLines) (stroke : Stroke)
    (after : List Stroke) :
    let blank := ofSpec s dir (.ofCommand commandLine)
    let above := blank.play before
    let m := blank.play (before ++ stroke :: after)
    Places above (stroke.text (!s.suppressFeatureGuards)) m ∧
      (EndsLine (m.preambles.implPreamble ++ above.implementation) ↔
        ¬ (s.LeavesIncludeOpen ∧ above.implementation = "")) := by
  intro blank above m
  have habove : above.text = Stroke.texts (!s.suppressFeatureGuards) before :=
    text_play_ofSpec s dir _ before
  have hm : m.text = above.text ++ (stroke.text (!s.suppressFeatureGuards) ++
      Stroke.texts (!s.suppressFeatureGuards) after) := by
    rw [habove, text_play_ofSpec, Stroke.texts_append]
    simp only [Stroke.texts, List.map_cons, Emission.concat_cons]
  have hends : above.text.EndsLines := habove ▸ Stroke.endsLines_texts hsaid _
  have hheader : StandsBelow above.header _ m.header :=
    .of_eq (congrArg Emission.header hm)
  have himpl : StandsBelow above.implementation _ m.implementation :=
    .of_eq (congrArg Emission.implementation hm)
  have hpreambles : m.preambles = Preambles.ofSpec s (.ofCommand commandLine) :=
    preambles_play blank _
  have hpreamble : EndsLine m.preambles.headerPreamble := by
    rw [hpreambles]
    exact endsLine_headerPreamble
  constructor
  · exact {
      header := ⟨hends.header, hheader⟩
      implementation := ⟨hends.implementation, himpl⟩
      headerText := ⟨hpreamble.append hends.header, hheader.between _ _⟩
      implText := himpl.between _ _ }
  · by_cases hfirst : above.implementation = ""
    · rw [hfirst, String.append_empty, hpreambles, endsLine_implPreamble_iff hextra]
      simp only [and_true]
    · have hline : EndsLine above.implementation := hends.implementation
      simp only [endsLine_append_iff hfirst, hline, hfirst, and_false, not_false_eq_true]

/-- A decoder outside the namespace block, with text of its own after its include. -/
def decoderSpec (extraImpl : String) : ModuleSpec :=
  { ModuleSpec.ofBasename "VkDecoder" .host with useNamespace := false, extraImpl }

/-- The strokes of one feature with one routine in it. -/
def featureStrokes : List Stroke :=
  [.opened "VK_VERSION_1_0", .said ⟨"", "void decode();\n"⟩, .closed]

/-- With such text, the guard of the feature is closed at the start of a line. -/
theorem strokes_start_lines_decoder :
    let blank := ofSpec (decoderSpec "\n#include <memory>\n") ⟨"out"⟩ default
    let above := blank.play (featureStrokes.take 2)
    let m := blank.play featureStrokes
    Places above ⟨"#endif\n", "#endif\n"⟩ m ∧
      EndsLine (m.preambles.implPreamble ++ above.implementation) := by
  have hextra : EndsLine (decoderSpec "\n#include <memory>\n").extraImpl := by decide
  have hsaid : ∀ text, .said text ∈ featureStrokes.take 2 → text.EndsLines := by
    intro text htext
    simp only [featureStrokes, List.take_succ_cons, List.take_zero, List.mem_cons, reduceCtorEq,
      Stroke.said.injEq, List.not_mem_nil, or_false, false_or] at htext
    rw [htext]
    exact ⟨by decide, by decide⟩
  obtain ⟨hplaces, hline⟩ :=
    strokes_start_lines _ ⟨"out"⟩ "vk-cereal generate" hextra hsaid .closed []
  exact ⟨hplaces, hline.mpr fun hopen => absurd hopen.1.2.1 (by decide)⟩

/-- Without, the guard of the feature is opened on the line of the include. -/
theorem first_guard_on_include_line :
    let m := (ofSpec (decoderSpec "") ⟨"out"⟩ default).play featureStrokes
    StartsLine "" "#ifdef VK_VERSION_1_0\n" m.implementation ∧
      StandsBelow m.preambles.implPreamble "#ifdef VK_VERSION_1_0\n" m.implText ∧
      ¬ EndsLine m.preambles.implPreamble ∧
      Within "#include \"VkDecoder.h\"#ifdef VK_VERSION_1_0\n" m.implText := by
  intro m
  have hopen : (decoderSpec "").LeavesIncludeOpen := ⟨rfl, rfl, rfl⟩
  have hpreambles : m.preambles = Preambles.ofSpec (decoderSpec "") default := preambles_play _ _
  have hpreamble : m.preambles.implPreamble = _ :=
    (congrArg Preambles.implPreamble hpreambles).trans (implPreamble_of_leavesIncludeOpen hopen _)
  have himpl : m.implementation = "#ifdef VK_VERSION_1_0\n" ++ "void decode();\n#endif\n" := by
    decide
  have htext : m.implText = m.preambles.implPreamble ++ ("#ifdef VK_VERSION_1_0\n" ++
      ("void decode();\n#endif\n" ++ m.preambles.implPostamble)) := by
    rw [implText, himpl]
    simp only [String.append_assoc]
  refine ⟨⟨endsLine_empty, .of_eq himpl⟩, .of_eq htext, ?_, ?_⟩
  · rw [hpreambles]
    exact fun h => (endsLine_implPreamble_iff endsLine_empty).mp h hopen
  · refine Within.of_eq (PreambleTemplates.default.copyright ++
      PreambleTemplates.default.banner "VkDecoder" "impl" ++ "\n")
      ("void decode();\n#endif\n" ++ m.preambles.implPostamble) ?_
    have hinclude : "#include \"" ++ (decoderSpec "").basename ++ ".h\"" =
        "#include \"VkDecoder.h\"" := by decide
    rw [htext, hpreamble, hinclude]
    simp only [String.append_assoc]
    rfl

end OutputModule

end VulkanWire
