import TripleIndex.Settings
import TripleIndex.Term.Read

/-!
Settings overridden by environment variables. A variable that is not set changes nothing, and the
first one whose text cannot be read is a fault.
-/

namespace TripleIndex.Settings

abbrev Environment := List (String × String)

/-- Take a setting from a variable that is set. -/
def override (env : Environment) (name : String) (current : JsonValue)
    (read : String → Except Fault Scalar) : Except Fault JsonValue :=
  match env.lookup name with
  | none => .ok current
  | some text => (read text).map .scalar

/-- A value that cannot be read names its variable. -/
def readable (name text : String) (value : Except Fault Scalar) : Except Fault Scalar :=
  match value with
  | .ok v => .ok v
  | .error _ => .error (.unreadableSetting name text)

def readCount (name text : String) : Except Fault Scalar :=
  readable name text ((integerOf text).map .int)

/-- An empty text sets no limit. -/
def readTimeout (name text : String) : Except Fault Scalar :=
  if text = "" then .ok .null else readable name text ((doubleOf text).map .float)

/-- One of the words for yes, in any case and between blanks. -/
def isYes (text : String) : Bool :=
  ["1", "true", "yes", "on"].contains (String.ofList (lowerAscii (trim text.toList)))

/-- A variable that holds a text. It ends before the first null character, so it can hold none, and its
name before the equals sign. -/
def checkedVariable (name text : String) : Except Fault (String × String) :=
  if name.contains '\x00' || text.contains '\x00' then .error .nullInVariable
  else if name.contains '=' then .error .illegalVariableName
  else .ok (name, text)

/-- The variables with the given values, which have to be texts. -/
def Environment.ofMembers (members : List (String × JsonValue)) : Except Fault Environment :=
  members.mapM fun (name, value) => match value with
    | .scalar (.text text) => checkedVariable name text
    | .scalar (.codePoints ns) => .error (.unencodable ns)
    | v => .error (.variableNotText v.typeName)

/-- Settings with the variables of an environment in place of what they hold. -/
def ofEnvironment (base : Settings) (env : Environment) : Except Fault Settings := do
  return ⟨← override env "NAME" base.name fun text => .ok (.text text),
    ← override env "DEFAULT_GRAPH" base.defaultGraph fun text => .ok (.text text),
    ← override env "PLANNER_WORKERS" base.workers (readCount "PLANNER_WORKERS"),
    ← override env "FETCH_SIZE" base.fetchSize (readCount "FETCH_SIZE"),
    ← override env "TIMEOUT_SECONDS" base.timeout (readTimeout "TIMEOUT_SECONDS"),
    ← override env "EXPLAIN_PLANS" base.explainPlans fun text => .ok (.bool (isYes text))⟩

end TripleIndex.Settings
