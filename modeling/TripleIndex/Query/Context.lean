import TripleIndex.Limit

/-!
The course of a query: its state, what it has read and returned so far, and whether it may go on. A
query is stopped by a request to cancel it or by its time limit, in this order. The clock is no part
of this: a limit that leaves no time has passed as soon as the query has started, and any other limit
has not.
-/

namespace TripleIndex

inductive QueryState where
  | pending
  | running
  | completed
  | cancelled
  | timedOut
  | failed
  deriving DecidableEq, Repr

structure Context where
  timeout : Option Scalar
  state : QueryState
  started : Bool
  scanned : Nat
  returned : Nat
  patterns : Int
  joins : Nat
  error : Option String
  deriving DecidableEq, Repr

namespace Context

def fresh (timeout : Option Scalar) : Context := ⟨timeout, .pending, false, 0, 0, 0, 0, none⟩

def start (c : Context) : Context := { c with started := true, state := .running }

def complete (c : Context) : Context := { c with state := .completed }

def fail (c : Context) (error : String) : Context := { c with state := .failed, error := some error }

/-- Rows after which the query looks whether it may go on. -/
def checkInterval : Nat := 1000

/-- Why a query that has started must stop at its time limit. A limit that is no number is a fault of
its own. -/
def expiry? (c : Context) : Option Fault :=
  match c.timeout with
  | none => none
  | some limit =>
    if !c.started then none
    else if !limit.comparable (.int 0) then some (.unordered ">" "float" limit.typeName)
    else if leavesNoTime limit then some (.timedOut limit)
    else none

def cancellation? (requested : Bool) : Option Fault := if requested then some .cancelled else none

/-- Why the query must stop, if it must. -/
def interruption? (c : Context) (requested : Bool) : Option Fault :=
  match cancellation? requested with
  | some f => some f
  | none => c.expiry?

def interrupted (c : Context) : Fault → Context
  | .cancelled => { c with state := .cancelled }
  | .timedOut _ => { c with state := .timedOut }
  | _ => c

/-- Stop for a reason, or go on. -/
def stopFor (c : Context) : Option Fault → Context × Option Fault
  | none => (c, none)
  | some f => (c.interrupted f, some f.reported)

def checkCancelled (c : Context) (requested : Bool) : Context × Option Fault :=
  c.stopFor (cancellation? requested)

def checkTimeout (c : Context) : Context × Option Fault := c.stopFor c.expiry?

def check (c : Context) (requested : Bool) : Context × Option Fault :=
  c.stopFor (c.interruption? requested)

def countRow (c : Context) (requested : Bool) : Context × Option Fault :=
  let counted := { c with scanned := c.scanned + 1 }
  if counted.scanned % checkInterval = 0 then counted.check requested else (counted, none)

/-- Count documents one by one until the query has to stop. -/
def countRows (c : Context) (requested : Bool) : Nat → Context × Option Fault
  | 0 => (c, none)
  | n + 1 =>
    match c.countRow requested with
    | (counted, none) => counted.countRows requested n
    | stopped => stopped

def recordPatterns (c : Context) (n : Int) : Context := { c with patterns := c.patterns + n }

def recordJoin (c : Context) : Context := { c with joins := c.joins + 1 }

def recordResult (c : Context) : Context := { c with returned := c.returned + 1 }

end Context

end TripleIndex
