import Mathlib.Data.List.Chain
import VulkanWire.Output.Module

/-!
# Source under guards

Generated source is compiled conditionally. One line opens the guard of a
feature, another one closes it, and what stands between them is compiled where
the feature is defined. Reading a source finds the guard that every item stands
in; a source whose guards nest or are left open has no reading. A source that
consists of blocks, each inside a guard of its own or outside all of them, has
one, and items that come with their guards make up such blocks in a single way
if neighbours are not to share a guard.

## Main definitions

* `SourceLine`, `sourceText` — lines of source and their text.
* `readGuarded` — the items of a source with their guards.
* `Block` — items inside one guard, or outside all.
* `MaximalRuns` — items in blocks that are as long as they can be.

## Main results

* `readGuarded_blocks` — what is read in a source made of blocks.
* `maximalRuns_iff` — how items are put into such blocks.
-/

namespace VulkanWire

variable {α : Type}

/-! ## Lines -/

/-- A line of source as conditional compilation sees it. -/
inductive SourceLine (α : Type) where
  /-- The guard of a feature is opened. -/
  | ifdef (feature : String)
  /-- The guard is closed. -/
  | endif
  | code (item : α)
deriving DecidableEq, Repr

/-- The text of a line, given the text of its item. -/
def SourceLine.text (render : α → String) : SourceLine α → String
  | ifdef feature => s!"#ifdef {feature}\n"
  | endif => "#endif\n"
  | code item => render item

/-- The text of lines, one after the other. -/
def sourceText (render : α → String) (ls : List (SourceLine α)) : String :=
  String.join (ls.map (·.text render))

/-- The items of a source, each with the guard it stands in, given the guard that is open before it.
A source in which a guard is opened inside another one, closed without being open, or open in the
end has no reading. -/
def readGuarded : Option String → List (SourceLine α) → Option (List (Option String × α))
  | none, [] => some []
  | some _, [] => none
  | none, .ifdef feature :: rest => readGuarded (some feature) rest
  | some _, .ifdef _ :: _ => none
  | some _, .endif :: rest => readGuarded none rest
  | none, .endif :: _ => none
  | guard?, .code item :: rest => (readGuarded guard? rest).map ((guard?, item) :: ·)

section

variable (render : α → String)

@[simp] theorem sourceText_nil : sourceText render [] = "" := String.join_nil

@[simp] theorem sourceText_cons (l : SourceLine α) (ls : List (SourceLine α)) :
    sourceText render (l :: ls) = l.text render ++ sourceText render ls := by
  rw [sourceText, List.map_cons, String.join_cons]
  rfl

@[simp] theorem sourceText_append (ls ls' : List (SourceLine α)) :
    sourceText render (ls ++ ls') = sourceText render ls ++ sourceText render ls' := by
  rw [sourceText, List.map_append, String.join_append]
  rfl

@[simp] theorem sourceText_code (items : List α) :
    sourceText render (items.map .code) = String.join (items.map render) := by
  rw [sourceText, List.map_map]
  rfl

end

/-! ## Blocks -/

/-- Items that stand inside one guard, or outside all of them. -/
structure Block (α : Type) where
  guard? : Option String
  items : List α
deriving DecidableEq, Repr

namespace Block

/-- The lines of a block. -/
def lines (b : Block α) : List (SourceLine α) :=
  match b.guard? with
  | some feature => .ifdef feature :: (b.items.map .code ++ [.endif])
  | none => b.items.map .code

/-- The items of a block with its guard. -/
def placed (b : Block α) : List (Option String × α) := b.items.map (b.guard?, ·)

end Block

theorem readGuarded_code (guard? : Option String) (items : List α) (rest : List (SourceLine α)) :
    readGuarded guard? (items.map .code ++ rest) =
      (readGuarded guard? rest).map (items.map (guard?, ·) ++ ·) := by
  induction items with
  | nil => simp
  | cons item items ih =>
      rw [List.map_cons, List.cons_append, readGuarded, ih, Option.map_map]
      rfl

/-- A block is read as its items, and leaves no guard open. -/
theorem readGuarded_lines (b : Block α) (rest : List (SourceLine α)) :
    readGuarded none (b.lines ++ rest) = (readGuarded none rest).map (b.placed ++ ·) := by
  obtain ⟨guard?, items⟩ := b
  cases guard? with
  | none => exact readGuarded_code none items rest
  | some feature =>
      rw [Block.lines, List.cons_append, readGuarded, List.append_assoc, readGuarded_code,
        List.singleton_append, readGuarded]
      rfl

/-- In a source that consists of blocks, every item stands in the guard of its block. -/
theorem readGuarded_blocks (bs : List (Block α)) :
    readGuarded none (bs.flatMap Block.lines) = some (bs.flatMap Block.placed) := by
  induction bs with
  | nil => rfl
  | cons b bs ih =>
      rw [List.flatMap_cons, readGuarded_lines, ih, List.flatMap_cons, Option.map_some]

/-- Blocks without items hold nothing. -/
theorem Block.placed_filter_nonempty (bs : List (Block α)) :
    (bs.filter (·.items ≠ [])).flatMap Block.placed = bs.flatMap Block.placed := by
  induction bs with
  | nil => rfl
  | cons b bs ih =>
      rw [List.filter_cons, List.flatMap_cons, ← ih]
      by_cases hnone : b.items = []
      · simp [hnone, Block.placed]
      · simp [hnone]

/-! ## Maximal runs -/

/-- Blocks that are made of items with their guards, in their order, and are as long as they can be:
none is empty, and no two neighbours share a guard. -/
structure MaximalRuns (placed : List (Option String × α)) (bs : List (Block α)) : Prop where
  placed : bs.flatMap Block.placed = placed
  nonempty : ∀ b ∈ bs, b.items ≠ []
  apart : bs.IsChain fun b c => b.guard? ≠ c.guard?

namespace Block

/-- Puts an item in front of blocks, into the first one if that has the same guard. -/
def push (guard? : Option String) (item : α) : List (Block α) → List (Block α)
  | [] => [⟨guard?, [item]⟩]
  | b :: bs =>
    if b.guard? = guard? then ⟨guard?, item :: b.items⟩ :: bs else ⟨guard?, [item]⟩ :: b :: bs

/-- The blocks that items with their guards make up. -/
def runs : List (Option String × α) → List (Block α)
  | [] => []
  | (guard?, item) :: rest => push guard? item (runs rest)

variable {guard? : Option String} {item : α} {placed : List (Option String × α)}
  {b : Block α} {bs : List (Block α)}

theorem push_of_ne (h : ∀ b ∈ bs.head?, guard? ≠ b.guard?) :
    push guard? item bs = ⟨guard?, [item]⟩ :: bs := by
  cases bs with
  | nil => rfl
  | cons b bs =>
      have hne : b.guard? ≠ guard? := (h b rfl).symm
      rw [push, if_neg hne]

theorem maximalRuns_push (h : MaximalRuns placed bs) (guard? : Option String) (item : α) :
    MaximalRuns ((guard?, item) :: placed) (push guard? item bs) := by
  obtain ⟨rfl, hnonempty, hapart⟩ := h
  cases bs with
  | nil => exact ⟨rfl, by simp [push], by simp [push]⟩
  | cons b bs =>
      obtain ⟨guard'?, items⟩ := b
      rw [List.forall_mem_cons] at hnonempty
      by_cases hsame : guard'? = guard?
      · subst hsame
        rw [push, if_pos rfl]
        -- The first block keeps its guard, so it still differs from the second.
        refine ⟨rfl, List.forall_mem_cons.mpr ⟨List.cons_ne_nil _ _, hnonempty.2⟩, ?_⟩
        rw [List.isChain_cons] at hapart ⊢
        exact hapart
      · rw [push, if_neg hsame]
        refine ⟨rfl, ?_, .cons_cons (Ne.symm hsame) hapart⟩
        simpa using hnonempty

theorem maximalRuns_runs (placed : List (Option String × α)) :
    MaximalRuns placed (runs placed) := by
  induction placed with
  | nil => exact ⟨rfl, by simp [runs], .nil⟩
  | cons entry rest ih => exact maximalRuns_push ih entry.1 entry.2

/-- Items of one guard make up one block if those after them have another. -/
theorem runs_placed_append (hnonempty : b.items ≠ [])
    (happart : ∀ c ∈ (runs placed).head?, b.guard? ≠ c.guard?) :
    runs (b.placed ++ placed) = b :: runs placed := by
  obtain ⟨guard?, items⟩ := b
  induction items with
  | nil => exact absurd rfl hnonempty
  | cons item items ih =>
      show push guard? item (runs ((⟨guard?, items⟩ : Block α).placed ++ placed)) = _
      cases items with
      | nil => exact push_of_ne happart
      | cons item' items =>
          rw [ih (List.cons_ne_nil _ _) happart, push, if_pos rfl]

end Block

/-- Items with their guards make up maximal runs in a single way. -/
theorem maximalRuns_iff {placed : List (Option String × α)} {bs : List (Block α)} :
    MaximalRuns placed bs ↔ bs = Block.runs placed := by
  constructor
  · rintro ⟨rfl, hnonempty, hapart⟩
    induction bs with
    | nil => rfl
    | cons b bs ih =>
        rw [List.forall_mem_cons] at hnonempty
        rw [List.isChain_cons] at hapart
        have hrest := ih hnonempty.2 hapart.2
        rw [List.flatMap_cons, Block.runs_placed_append hnonempty.1 (hrest ▸ hapart.1), ← hrest]
  · rintro rfl
    exact Block.maximalRuns_runs placed

end VulkanWire
