import VulkanWire.Schema.Traversal

/-!
# Traces of traversals

A trace writes down the events of a traversal, one short line each. The tracer
may be told to fail at the event with a given number, which shows how a visitor
that fails stops a traversal; the failing event is still in the trace.
-/

namespace VulkanWire

/-- How traces spell the category of a definition. -/
def Category.traceName : Category → String
  | .command => "cmd"
  | c => c.spelling

/-- The line of a definition in a trace. -/
def Element.traceLine (e : Element) : String := s!"{e.category.traceName}:{e.name}"

/-- The line of an event in a trace. -/
def Event.traceLine : Event → String
  | .beginFile => "begin-file"
  | .beginFeature f => s!"begin:{f.name}"
  | .element e => e.traceLine
  | .endFeature => "end"
  | .endFile => "end-file"

/-- Writes a trace, and may fail at a line. -/
abbrev Tracing := ExceptT String (StateM (List String))

/-- Writes down an event and fails if it is the one to fail at. -/
def trace (failAt : Option Nat) (e : Event) : Tracing Unit := do
  let count := (← get).length
  modify (· ++ [e.traceLine])
  if failAt = some count then throw e.traceLine

/-- The visitor that writes down every event. -/
def tracer (failAt : Option Nat) : Visitor Tracing Unit where
  beginFile := trace failAt .beginFile
  beginFeature f := trace failAt (.beginFeature f)
  element e := trace failAt (.element e)
  endFeature := trace failAt .endFeature
  endFile := trace failAt .endFile

/-- The trace of a traversal, with the line it failed at, if it failed. -/
def Schema.traced (s : Schema) (failAt : Option Nat) : Option String × List String :=
  let (result, events) := (ExceptT.run (s.walk (tracer failAt))).run []
  (match result with
    | .ok () => none
    | .error line => some line, events)

end VulkanWire
