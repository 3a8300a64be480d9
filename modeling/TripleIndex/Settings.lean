import TripleIndex.Json.Value
import TripleIndex.Limit

/-!
Settings of a store. They come from outside, so each of them may be any value until it is checked:
the names must not be empty, the counts must be at least one, and a time limit must be positive.
-/

namespace TripleIndex

structure Settings where
  name : JsonValue
  defaultGraph : JsonValue
  workers : JsonValue
  fetchSize : JsonValue
  timeout : JsonValue
  explainPlans : JsonValue

namespace Settings

def default : Settings :=
  ⟨.ofText "default", .ofText defaultGraphName, .ofInt 4, .ofInt 1000, .null, .scalar (.bool false)⟩

/-- The member of a value that has to have members. What is missing has its default. -/
def memberOf (v : JsonValue) (name : String) (missing : JsonValue) : Except Fault JsonValue :=
  match v with
  | .object _ => .ok ((v.member? name).getD missing)
  | _ => .error (.membersOfValue v.typeName)

def ofValue (v : JsonValue) : Except Fault Settings := do
  let name ← memberOf v "name" default.name
  let defaultGraph ← memberOf v "default_graph" default.defaultGraph
  let query ← memberOf v "query" (.object [])
  return ⟨name, defaultGraph, ← memberOf query "planner_workers" default.workers,
    ← memberOf query "fetch_size" default.fetchSize,
    ← memberOf query "default_timeout_seconds" default.timeout,
    ← memberOf query "explain_plans" default.explainPlans⟩

/-- The object that settings are made of again. -/
def toValue (s : Settings) : JsonValue := .object [
  ("name", s.name), ("default_graph", s.defaultGraph),
  ("query", .object [("planner_workers", s.workers), ("fetch_size", s.fetchSize),
    ("default_timeout_seconds", s.timeout), ("explain_plans", s.explainPlans)])]

theorem ofValue_toValue (s : Settings) : ofValue s.toValue = .ok s := rfl

def alike (s t : Settings) : Bool := s.toValue.alike t.toValue

end Settings

namespace Settings

def problem (found : Bool) (text : String) : List String := if found then [text] else []

def problems (s : Settings) : Except Fault (List String) := do
  let workers ← belowOne s.workers
  let fetchSize ← belowOne s.fetchSize
  let timeout ← isSpentLimit s.timeout
  return problem (!s.name.isSet) "name must not be empty" ++
    problem (!s.defaultGraph.isSet) "default_graph must not be empty" ++
    problem workers "planner_workers must be at least 1" ++
    problem fetchSize "fetch_size must be at least 1" ++
    problem timeout "default_timeout_seconds must be positive"

/-- The settings if nothing is wrong with them. -/
def checked (s : Settings) : Except Fault Settings := do
  let found ← s.problems
  if found.isEmpty then return s else .error (.invalidSettings found)

end Settings

end TripleIndex
