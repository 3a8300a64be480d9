import TripleIndex.Field

/-!
How long a query took, in milliseconds, from the seconds at which it started and ended.
-/

namespace TripleIndex

def thousand : Double := .ofRatio false 1000 1

def isNumber (v : Scalar) : Bool := v.comparable (.int 0)

/-- The difference of two numbers, a thousand times. Integers stay exact. -/
def milliseconds (start finish : Scalar) : Except Fault Scalar :=
  if isNumber start && isNumber finish then
    match start.integer?, finish.integer? with
    | some a, some b => .ok (.int ((b - a) * 1000))
    | _, _ => do
      let b ← toDouble finish
      let a ← toDouble start
      return .float ((b.sub a).mul thousand)
  else .error (.undefinedOperation "-" finish.typeName start.typeName)

/-- The milliseconds from start to end; none before the start, and up to the present while there is
no end. -/
def duration (now : Double) (start finish : Scalar) : Except Fault Scalar :=
  if start = .null then .ok (.float (.finite false 0))
  else milliseconds start (if finish.isSet then finish else .float now)

end TripleIndex
