/-!
Records of what a store and its planner have done.
-/

namespace TripleIndex

inductive LogSource where
  | store
  | planner
  deriving DecidableEq, Repr

inductive LogLevel where
  | debug
  | info
  | error
  deriving DecidableEq, Repr

structure LogRecord where
  source : LogSource
  level : LogLevel
  message : String
  deriving DecidableEq, Repr

namespace LogLevel

def rank : LogLevel → Nat
  | debug => 10
  | info => 20
  | error => 40

/-- Whether a log that is kept from one level on keeps a record of another. -/
def keeps (from_ level : LogLevel) : Bool := from_.rank ≤ level.rank

end LogLevel

end TripleIndex
