import TripleIndex.Query.Frame

/-!
The order of a join as listings show it: the graph, and for each step the pattern, its filter query,
how many documents it selects and why its evaluation failed if it did. A listing shows what it is given,
whatever values these are, and a table only what fits its columns.
-/

namespace TripleIndex

structure ExplainedStep where
  step : JsonValue
  role : JsonValue
  position : JsonValue
  pattern : JsonValue
  query : JsonValue
  cardinality : JsonValue
  error : JsonValue

structure Explanation where
  graph : JsonValue
  steps : List ExplainedStep
  empty : Bool

namespace ExplainedStep

def errorLine (s : ExplainedStep) : List String :=
  if s.error.isSet then ["     Error: " ++ s.error.plain] else []

def lines (s : ExplainedStep) : List String := [
  "  " ++ s.step.plain ++ ". " ++ s.role.plain ++ ": " ++ s.pattern.plain,
  "     Query: " ++ s.query.plain,
  "     Cardinality: " ++ s.cardinality.plain] ++ s.errorLine

end ExplainedStep

namespace Explanation

def emptyLine (e : Explanation) : List String :=
  if e.empty then ["Plan: empty (no bindings possible)"] else []

def text (e : Explanation) : String :=
  "\n".intercalate
    (["Graph: " ++ e.graph.plain] ++ e.emptyLine ++ ["", "Steps:"] ++ e.steps.flatMap ExplainedStep.lines)

/-- The columns, each with the values that it is made of. -/
def columns (e : Explanation) : List (Column × List JsonValue) := [
  (⟨"step", .integer⟩, e.steps.map (·.step)), (⟨"role", .text⟩, e.steps.map (·.role)),
  (⟨"position", .integer⟩, e.steps.map (·.position)), (⟨"pattern", .text⟩, e.steps.map (·.pattern)),
  (⟨"query", .text⟩, e.steps.map (·.query)), (⟨"cardinality", .integer⟩, e.steps.map (·.cardinality)),
  (⟨"error", .text⟩, e.steps.map (·.error))]

/-- One row for each step, in the order of the join. -/
def frame (e : Explanation) : Except Fault Frame := do
  let cells ← e.columns.mapM fun (c, vs) => c.cells vs
  return ⟨e.columns.map (·.1), ← rowsOf cells⟩

end Explanation

end TripleIndex
