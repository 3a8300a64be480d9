import TripleIndex.Fault
import TripleIndex.Json.Value

/-!
Limits that come from outside and may be any value: counts that must be at least one, time limits
that must leave some time, and the size of pages.
-/

namespace TripleIndex

/-- A value that has a place in the order of the numbers. -/
def number? (v : JsonValue) : Option Scalar :=
  v.scalar?.bind fun s => if s.comparable (.int 0) then some s else none

/-- The fault of a comparison with an integer that has no answer. -/
def notANumber (relation : String) (v : JsonValue) : Fault := .unordered relation v.typeName "int"

/-- Whether a number lies below one. -/
def belowOne (v : JsonValue) : Except Fault Bool :=
  match number? v with
  | some n => .ok (n.lt (.int 1))
  | none => .error (notANumber "<" v)

/-- Whether a time limit leaves no time. -/
def leavesNoTime (limit : Scalar) : Bool := limit.lt (.int 0) || limit.same (.int 0)

/-- Whether a time limit is given that leaves no time. -/
def isSpentLimit (v : JsonValue) : Except Fault Bool :=
  match v, number? v with
  | .scalar .null, _ => .ok false
  | _, some n => .ok (leavesNoTime n)
  | _, none => .error (notANumber "<=" v)

/-- The number of rows that is added to the place where a page starts. Only an integer can be. -/
def rowCount (v : JsonValue) : Except Fault Int :=
  match v.scalar?.bind Scalar.integer?, number? v with
  | some n, _ => .ok n
  | none, some _ => .error .pageSizeNotInteger
  | none, none => .error (.undefinedOperation "+" "int" v.typeName)

/-- The size of a page is a positive number. Only an integer can be used to cut one. -/
inductive PageSize where
  | rows (n : Int) (positive : 1 ≤ n)
  | fraction
  deriving DecidableEq, Repr

namespace PageSize

def ofValue (v : JsonValue) : Except Fault PageSize := do
  if ← belowOne v then .error .pageSizeBelowOne
  else
    match v.scalar?.bind Scalar.integer? with
    | some n => if h : 1 ≤ n then return .rows n h else .error .pageSizeBelowOne
    | none => return .fraction

def count : PageSize → Except Fault Int
  | rows n _ => .ok n
  | fraction => .error .pageSizeNotInteger

end PageSize

end TripleIndex
