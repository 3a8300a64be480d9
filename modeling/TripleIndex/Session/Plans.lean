import TripleIndex.Session.Basic

/-!
Plans of a session, and the queries that need no cursor.
-/

namespace TripleIndex

namespace Session

def findPlan (name : String) : Operation (Plan Nat) := do ofResult ((← get).plans.find name)

/-- Keep a plan, whose steps a listing has to show. -/
def keepPlan (name : String) (plan : Plan Nat) : Operation (Plan Nat) := do
  if !plan.steps.all Candidates.isWritable then throw .unwritableInteger
  modify fun s => { s with plans := s.plans.put name plan }
  return plan

/-- Evaluate patterns on a reader, in exactly the graph that is given. -/
def evaluate (workers : JsonValue) (r : Reader) (patterns : List Pattern) (graph : Option Term) :
    Operation (List Candidates) := do
  let e := (← get).store.evaluate workers r patterns graph
  record e.records
  ofResult e.all

/-- Plan patterns with a reader that is known by a name. -/
def planWith {ρ : Type} (r : Reader) (name : ρ) (patterns : List Pattern) (g : Option Term) :
    Operation (Plan ρ) := do
  let store := (← get).store
  let results ← evaluate store.settings.workers r patterns (some (store.graph g))
  let plan ← ofResult (Plan.ofResults results (store.graph g) name)
  record (store.planRecords results plan)
  return plan

/-- Plan patterns with the reader at a place. -/
def planAt (place : Nat) (patterns : List Pattern) (g : Option Term) : Operation (Plan Nat) := do
  planWith ((← get).readerAt place) place patterns g

/-- Plan patterns with a reader that is named, or with a new one, which the plan takes along unless it
has come to nothing. -/
def plan (name : String) (patterns : List Pattern) (g : Option Term) (reader : Option String) :
    Operation (Plan Nat) := do
  match ← findReader? reader with
  | some place => keepPlan name (← planAt place patterns g)
  | none =>
    let place ← openReader
    let plan ← planAt place patterns g
    if plan.reader.isNone then closeReaderAt place
    keepPlan name plan

def mergePlans (name first second : String) : Operation (Plan Nat) := do
  keepPlan name ((← findPlan first).merge (← findPlan second))

/-- Keep a plan of steps that were evaluated elsewhere, in order or as they are. -/
def givePlan (name : String) (steps : List Candidates) (graph : Option String)
    (reader : Option String) (asGiven : Bool) : Operation (Plan Nat) := do
  let place ← findReader? reader
  keepPlan name (if asGiven then .joined steps graph place else .order steps graph place)

/-- Whether the reader of a plan is closed. The plan has to have one. -/
def isPlanReaderClosed (name : String) : Operation Bool := do
  match (← findPlan name).reader with
  | some place => return ((← get).readerAt place).isClosed
  | none => throw .noPlanReader

/-- Evaluate patterns with a number of workers, of which there must be one at least. The default graph is
not meant here when none is named. -/
def evaluateAll (patterns : List Pattern) (graph : Option Term) (workers : JsonValue) :
    Operation (List Candidates) := do
  if ← ofResult (belowOne workers) then throw .workersBelowOne
  evaluate workers (.opened (← get).store.index) patterns graph

def explain (patterns : List Pattern) (g : Option Term) : Operation Explanation := do
  let store := (← get).store
  let evaluation := store.evaluate store.settings.workers (.opened store.index) patterns
    (some (store.graph g))
  record evaluation.records
  ofResult (store.explain patterns g)

/-- Plan patterns for one use. -/
def planOnce (patterns : List Pattern) (g : Option Term) : Operation (Plan Unit) := do
  planWith (.opened (← get).store.index) () patterns g

def query (patterns : List Pattern) (g : Option Term) : Operation (List Binding × Context) := do
  let plan ← planOnce patterns g
  let drained ← ofResult ((← get).store.answer plan)
  match drained.stop with
  | .failed f => throw f
  | _ => return (drained.answers, drained.surroundings.context)

/-- The answers as a table of the variables asked for, or of all variables of the patterns. -/
def select (patterns : List Pattern) (g : Option Term) (names : Option (List String)) :
    Operation Frame := do
  let plan ← planOnce patterns g
  ofResult ((← get).store.select plan (names.getD (Store.variableNames patterns)))

end Session

end TripleIndex
