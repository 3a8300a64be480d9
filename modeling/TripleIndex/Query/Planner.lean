import TripleIndex.Log
import TripleIndex.Query.Plan
import TripleIndex.Reader

/-!
Planning. Every pattern is compiled and evaluated on its own, also when another one has failed or
selects nothing, so that every failure is reported. A failure empties the candidates of its own pattern
and with them the plan. Only the failure of a pattern that cannot be written, and so not reported, fails
the evaluation. Where several workers evaluate several patterns at once the others are evaluated all the
same, and where the patterns are evaluated in turn those after it are not.
-/

namespace TripleIndex

namespace Candidates

def evaluate (registry : Registry) (r : Reader) (graph : Option Term) (p : Pattern) (position : Nat) :
    Candidates :=
  match compile registry p graph with
  | .error e => ⟨some p, .int position, .empty, none, some (.text e.message)⟩
  | .ok f =>
    match r.evaluate f none with
    | .error e => ⟨some p, .int position, .empty, some f, some (.text e.message)⟩
    | .ok ids => ⟨some p, .int position, ids, some f, none⟩

def patternText (c : Candidates) : String := (c.pattern.map Pattern.text).getD "None"

def queryText (c : Candidates) : String := (c.query.map Filter.text).getD "None"

def failureRecord (c : Candidates) : Option LogRecord :=
  c.error.map fun error => ⟨.planner, .error,
    "Pattern " ++ c.position.plain ++ " (" ++ c.patternText ++ ") failed, treating as empty: " ++
      error.plain⟩

def stepRecord (c : Candidates) : LogRecord :=
  ⟨.planner, .debug, "BGP explain: pattern=" ++ c.patternText ++ " query=" ++ c.queryText ++
    " cardinality=" ++ toString c.cardinality⟩

end Candidates

/-- Results in the order of the patterns, and the fault that ended the evaluation if one did. -/
structure Evaluation where
  results : List Candidates
  fault : Option Fault

namespace Evaluation

/-- Evaluate patterns from a position on, at once or in turn. -/
def ofPatternsFrom (atOnce : Bool) (registry : Registry) (r : Reader) (graph : Option Term) :
    Nat → List Pattern → Evaluation
  | _, [] => ⟨[], none⟩
  | position, p :: ps =>
    let rest := ofPatternsFrom atOnce registry r graph (position + 1) ps
    if p.isWritable then
      { rest with results := Candidates.evaluate registry r graph p position :: rest.results }
    else if atOnce then { rest with fault := some .unwritableInteger }
    else ⟨[], some .unwritableInteger⟩

/-- Whether a number of workers evaluates patterns at once. -/
def isAtOnce (workers : JsonValue) (patterns : List Pattern) : Bool :=
  1 < patterns.length && !workers.alike (.ofInt 1)

def ofPatterns (workers : JsonValue) (registry : Registry) (r : Reader) (graph : Option Term)
    (patterns : List Pattern) : Evaluation :=
  ofPatternsFrom (isAtOnce workers patterns) registry r graph 0 patterns

/-- Put the result of the pattern at a place there. -/
def complete (registry : Registry) (r : Reader) (graph : Option Term) (patterns : List Pattern)
    (results : List (Option Candidates)) (place : Nat) : Except Fault (List (Option Candidates)) :=
  match patterns[place]? with
  | none => .ok results
  | some p =>
    if p.isWritable then .ok (results.set place (some (Candidates.evaluate registry r graph p place)))
    else .error .unwritableInteger

/-- Evaluate patterns at once, of which the results come in in an order of their places. -/
def ofCompletions (registry : Registry) (r : Reader) (graph : Option Term) (patterns : List Pattern)
    (order : List Nat) : Except Fault (List (Option Candidates)) :=
  order.foldlM (complete registry r graph patterns) (List.replicate patterns.length none)

def all (e : Evaluation) : Except Fault (List Candidates) :=
  match e.fault with
  | some f => .error f
  | none => .ok e.results

/-- The records of the failures. -/
def records (e : Evaluation) : List LogRecord := e.results.filterMap Candidates.failureRecord

end Evaluation

/-- The name of a graph in a plan: its canonical form, or its plain text if it has none. -/
def graphName (graph : Term) : Except Fault String :=
  match graphForm (some graph) with
  | .ok form => .ok form
  | .error _ => graph.written

namespace Plan

variable {ρ : Type}

/-- The plan of evaluated patterns. -/
def ofResults (results : List Candidates) (graph : Term) (reader : ρ) : Except Fault (Plan ρ) :=
  if results.isEmpty then .ok nothing
  else (graphName graph).map fun name => order results (some name) (some reader)

/-- The records of ordering evaluated patterns. -/
def records (results : List Candidates) : List LogRecord := (sorted results).map Candidates.stepRecord

/-- Plan patterns with a reader, which the plan carries under its name. -/
def make (workers : JsonValue) (registry : Registry) (r : Reader) (name : ρ) (patterns : List Pattern)
    (graph : Term) : Except Fault (Plan ρ) := do
  ofResults (← (Evaluation.ofPatterns workers registry r (some graph) patterns).all) graph name

end Plan

end TripleIndex
