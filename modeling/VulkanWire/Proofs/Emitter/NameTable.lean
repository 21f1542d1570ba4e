import VulkanWire.Proofs.Emitter.Numbering
import VulkanWire.Proofs.Output.Conditional

/-!
# The guards of the name table

The host's marshaling ends with a routine that names the number of a command.
Its cases come in the order in which the commands were delivered, and the loop
that writes them opens and closes guards on the way: while a guard is open, the
next command either continues its block or closes it and starts another one. So
the cases stand in blocks, one for each maximal run of commands with the same
feature, and every case stands in the guard of its own feature.

## Main definitions

* `Cue.delivery?` — the command that a cue delivers, with its feature.
* `Marshaling.continuation` — what is left of a table while a guard is open.

## Main results

* `Marshaling.renderCases_eq` — the loop writes what is left of the blocks.
* `Marshaling.nameTable_eq` — the table in blocks.
* `StandardEmitter.opcodes_after` — the commands that marshaling has kept.
* `StandardEmitter.cases_in_guards` — the whole table.
-/

namespace VulkanWire

/-- The command that a cue delivers, unless it is an alias, with the feature that the registry is in
by then. -/
def Cue.delivery? (c : Cue) : Option (Option String × String) :=
  c.liveCommand?.map fun d => (c.registry.currentFeature?, d.name)

/-- The commands that cues deliver, aliases left out, each with its feature. -/
def deliveries (cues : List Cue) : List (Option String × String) := cues.filterMap Cue.delivery?

namespace Marshaling

/-- What stands before the cases. -/
def tableStart : String :=
  lines [
    "const char* api_opcode_to_string(const uint32_t opcode) \x7b",
    "    switch (opcode) \x7b"]

/-- The case of a command. -/
def caseOf (command : String) : String :=
  lines [
    s!"        case OP_{command}: \x7b",
    s!"            return \"OP_{command}\";",
    "        \x7d"]

/-- The default case and what stands after it. -/
def tableEnd : String :=
  lines [
    "        default: \x7b",
    "            return \"OP_UNKNOWN_API_CALL\";",
    "        \x7d",
    "    \x7d",
    "\x7d",
    ""]

/-- A command that has been numbered, with its feature. -/
def placeOf (o : Opcode) : Option String × String := (o.feature, o.command)

/-! ## The loop over the cases -/

/-- What is left of a table of blocks while a guard is open: the rest of the block inside it, if
there is any, the end of the guard, and the other blocks. -/
def continuation (guard? : Option String) : List (Block String) → String
  | [] => closeGuard guard?
  | b :: bs =>
    if b.guard? = guard? then
      String.join (b.items.map caseOf) ++ closeGuard guard? ++
        sourceText caseOf (bs.flatMap Block.lines)
    else closeGuard guard? ++ sourceText caseOf ((b :: bs).flatMap Block.lines)

/-- A block is its cases between the lines that open and close its guard. -/
theorem sourceText_lines (b : Block String) :
    sourceText caseOf b.lines =
      openGuard b.guard? ++ (String.join (b.items.map caseOf) ++ closeGuard b.guard?) := by
  obtain ⟨guard?, items⟩ := b
  cases guard? with
  | none => simp [Block.lines, openGuard, closeGuard]
  | some feature => simp [Block.lines, openGuard, closeGuard, SourceLine.text]

/-- Outside all guards, the blocks are all that is left. -/
theorem continuation_none (bs : List (Block String)) :
    continuation none bs = sourceText caseOf (bs.flatMap Block.lines) := by
  cases bs with
  | nil => rfl
  | cons b bs =>
      rw [continuation, List.flatMap_cons, sourceText_append]
      split
      · rename_i houtside
        simp [sourceText_lines, houtside, openGuard, closeGuard]
      · simp [closeGuard]

/-- A case in front of blocks continues the first of them or makes up one of its own. -/
theorem continuation_push (guard? : Option String) (command : String) (bs : List (Block String)) :
    continuation guard? (Block.push guard? command bs) =
      caseOf command ++ continuation guard? bs := by
  cases bs with
  | nil => simp [Block.push, continuation]
  | cons b bs =>
      by_cases hsame : b.guard? = guard?
      · simp [Block.push, continuation, hsame, String.append_assoc]
      · simp [Block.push, continuation, hsame, String.append_assoc]

/-- A case with another guard than the open one closes that and opens its own. -/
theorem continuation_push_of_ne {guard? feature? : Option String} (h : feature? ≠ guard?)
    (command : String) (bs : List (Block String)) :
    continuation guard? (Block.push feature? command bs) =
      closeGuard guard? ++
        (openGuard feature? ++ (caseOf command ++ continuation feature? bs)) := by
  cases bs with
  | nil => simp [Block.push, continuation, h, sourceText_lines]
  | cons b bs =>
      by_cases hsame : b.guard? = feature?
      · simp [Block.push, continuation, h, hsame, sourceText_lines, String.append_assoc]
      · simp [Block.push, continuation, h, hsame, sourceText_lines, String.append_assoc]

/-- With a guard open, the loop writes what is left of the blocks that the commands make up. -/
theorem renderCases_eq (guard? : Option String) (os : List Opcode) :
    renderCases guard? os = continuation guard? (Block.runs (os.map placeOf)) := by
  induction os generalizing guard? with
  | nil => rfl
  | cons o os ih =>
      show _ ++ caseOf o.command ++ renderCases o.feature os =
        continuation guard? (Block.push o.feature o.command (Block.runs (os.map placeOf)))
      rw [ih]
      by_cases hsame : o.feature = guard?
      · subst hsame
        rw [if_pos rfl, String.empty_append, continuation_push]
      · rw [if_neg hsame, continuation_push_of_ne hsame]
        simp only [String.append_assoc]

/-- A table has its cases in the blocks that the commands make up. -/
theorem nameTable_eq (os : List Opcode) :
    nameTable os = tableStart ++
      sourceText caseOf ((Block.runs (os.map placeOf)).flatMap Block.lines) ++ tableEnd := by
  have htable : nameTable os = tableStart ++ renderCases none os ++ tableEnd := rfl
  rw [htable, renderCases_eq, continuation_none]

end Marshaling

/-! ## What marshaling keeps -/

namespace StandardEmitter

/-- Told of cues, marshaling keeps the commands that they deliver, with their features. -/
theorem opcodes_after (cues : List Cue) (m : Marshaling) :
    ∃ m', cues.foldl (fun e c => c.after e) (marshaling m) = marshaling m' ∧ m'.side = m.side ∧
      m'.opcodes.map Marshaling.placeOf = m.opcodes.map Marshaling.placeOf ++ deliveries cues := by
  induction cues generalizing m with
  | nil => exact ⟨m, rfl, rfl, (List.append_nil _).symm⟩
  | cons c cues ih =>
      have hafter : c.after (marshaling m) =
          marshaling (m.respond c.registry c.callback).2 := rfl
      rw [List.foldl_cons, hafter, deliveries]
      cases hlive : c.liveCommand? with
      | none =>
          have hnone : c.delivery? = none := by rw [Cue.delivery?, hlive, Option.map_none]
          rw [marshaling_of_quiet hlive, List.filterMap_cons_none hnone]
          exact ih m
      | some d =>
          obtain ⟨r, rfl, halias⟩ := exists_live hlive
          have hsome : Cue.delivery? ⟨r, .element (.command d)⟩ =
              some (r.currentFeature?, d.name) := by
            rw [Cue.delivery?, hlive, Option.map_some]
          have hstep : (Marshaling.respond r (.element (.command d)) m).2 =
              { m with opcodes := m.opcodes ++ [m.opcodeOf r d] } := by
            simp only [Marshaling.respond, if_neg halias]
          obtain ⟨m', hrest, hside, hkept⟩ := ih { m with opcodes := m.opcodes ++ [m.opcodeOf r d] }
          refine ⟨m', by rw [hstep, hrest], hside, ?_⟩
          rw [hkept, List.filterMap_cons_some hsome, List.map_append, List.append_assoc]
          rfl

/-- The table that the host's marshaling ends with, whatever it has been told of before: between its
fixed lines, the commands that were delivered stand in one block for each maximal run with the same
feature. Read as source, it has one case for each delivery, in the guard of just its own feature,
and its guards neither nest nor stay open. -/
theorem cases_in_guards (cues : List Cue) (r : Registry) :
    ∃ runs : List (Block String),
      (∀ bs, MaximalRuns (deliveries cues) bs ↔ bs = runs) ∧
      (Cue.mk r .finish).answer
          (cues.foldl (fun e c => c.after e) (marshaling { side := .host })) =
        .inImplementation (Marshaling.tableStart ++
          sourceText Marshaling.caseOf (runs.flatMap Block.lines) ++ Marshaling.tableEnd) ∧
      readGuarded none (runs.flatMap Block.lines) = some (deliveries cues) := by
  obtain ⟨m, hafter, hside, hkept⟩ := opcodes_after cues { side := .host }
  rw [List.map_nil, List.nil_append] at hkept
  have hruns := Block.maximalRuns_runs (deliveries cues)
  refine ⟨Block.runs (deliveries cues), fun bs => maximalRuns_iff, ?_, ?_⟩
  · have hanswer : (Cue.mk r .finish).answer (marshaling m) =
        .inImplementation (Marshaling.nameTable m.opcodes) := by
      show (Marshaling.respond r .finish m).1 = _
      simp only [Marshaling.respond, hside]
    rw [hafter, hanswer, Marshaling.nameTable_eq, hkept]
  · rw [readGuarded_blocks, hruns.placed]

end StandardEmitter

end VulkanWire
