import TripleIndex.Query.Walk

/-!
Cursors. A cursor delivers the answers of a join one by one. It looks ahead by one answer, and it ends
in one of three ways: the answers run out, the join fails, or the cursor is closed. A failure is kept
and every later pull reports it again; after the other ends there is nothing more to deliver. A cursor
that owns its reader closes it at its end, and one that does not leaves it alone.
-/

namespace TripleIndex

structure Cursor where
  steps : List Candidates
  size : PageSize
  owns : Bool
  stack : List Level
  lookahead : Option Binding
  fault : Option Fault
  started : Bool
  done : Bool

/-- What a cursor shares with the world: its reader, the context of its query, and whether somebody
has asked to cancel it. -/
structure Surroundings where
  reader : Reader
  context : Context
  cancelled : Bool

namespace Cursor

/-- A cursor over a plan. Only a plan without answers can do without a reader, and its cursor is done
from the start. -/
def make {ρ : Type} (plan : Plan ρ) (hasReader : Bool) (size : JsonValue) (owns : Bool) :
    Except Fault Cursor := do
  let size ← PageSize.ofValue size
  if !plan.isEmpty && !hasReader then .error .noReader
  else return ⟨plan.steps, size, owns, [], none, none, false, plan.isEmpty⟩

/-- What becomes of the reader when the cursor ends. -/
def release (c : Cursor) (r : Reader) : Reader := if c.owns then .closed else r

/-- What becomes of the reader when the cursor is made. -/
def readerAtStart (c : Cursor) (r : Reader) : Reader := if c.done then c.release r else r

def initialStack : List Candidates → List Level
  | [] => []
  | driver :: below => [.paged driver below]

/-- Begin the walk at the first pull. A context that is in use already is not started again. -/
def begin (c : Cursor) (context : Context) : Cursor × Context :=
  if c.started then (c, context)
  else
    let running := if context.state = .pending then context.start else context
    ({ c with started := true, stack := initialStack c.steps }, running.recordPatterns c.steps.length)

/-- The fault that a failed pull reports. What stops a query stays as it is. -/
def reported (f : Fault) : Fault :=
  match f.kind with
  | .cancelled | .timedOut => f
  | _ => .joinFailed f

def failContext (c : Context) (f : Fault) : Context :=
  if c.state = .running then c.fail f.message else c

def abort (c : Cursor) (f : Fault) (s : Surroundings) (context : Context) : Cursor × Surroundings :=
  ({ c with fault := some f, stack := [], done := true },
    { s with reader := c.release s.reader, context := failContext context f })

def finish (c : Cursor) (s : Surroundings) (context : Context) : Cursor × Surroundings :=
  ({ c with stack := [], done := true },
    { s with reader := c.release s.reader, context := context.complete })

def pull (c : Cursor) (s : Surroundings) : Except Fault Bool × Cursor × Surroundings :=
  let (c, context) := c.begin s.context
  match walk s.reader c.size s.cancelled (stackWork c.stack + 1) c.stack context with
  | .found b stack context =>
    (.ok true, { c with lookahead := some b, stack := stack }, { s with context := context })
  | .failed f context => (.error (reported f), c.abort (reported f) s context)
  | .ended context | .onward _ context => (.ok false, c.finish s context)

def hasNext (c : Cursor) (s : Surroundings) : Except Fault Bool × Cursor × Surroundings :=
  match c.fault with
  | some f => (.error f, c, s)
  | none =>
    if c.lookahead.isSome then (.ok true, c, s)
    else if c.done then (.ok false, c, s)
    else c.pull s

def next (c : Cursor) (s : Surroundings) : Except Fault Binding × Cursor × Surroundings :=
  match c.hasNext s with
  | (.error f, c, s) => (.error f, c, s)
  | (.ok _, c, s) =>
    match c.lookahead with
    | none => (.error .exhausted, c, s)
    | some b => (.ok b, { c with lookahead := none }, { s with context := s.context.recordResult })

def close (c : Cursor) (s : Surroundings) : Cursor × Surroundings :=
  ({ c with stack := [], lookahead := none, done := true }, { s with reader := c.release s.reader })

/-! ## Many answers -/

/-- How a run of pulls has ended. -/
inductive Stop where
  | exhausted
  | limit
  | failed (fault : Fault)

structure Drained where
  answers : List Binding
  stop : Stop
  cursor : Cursor
  surroundings : Surroundings

/-- More pulls than the cursor can still answer. -/
def pullsLeft (c : Cursor) : Nat :=
  (if c.started then stackWork c.stack else planWork c.steps) + c.lookahead.toList.length + 1

/-- Pull up to a limit, given fuel. -/
def drainFrom : Nat → Option Nat → Cursor → Surroundings → Drained
  | 0, _, c, s => ⟨[], .limit, c, s⟩
  | fuel + 1, limit, c, s =>
    if limit = some 0 then ⟨[], .limit, c, s⟩
    else
      match c.next s with
      | (.ok b, c, s) =>
        let later := drainFrom fuel (limit.map (· - 1)) c s
        { later with answers := b :: later.answers }
      | (.error .exhausted, c, s) => ⟨[], .exhausted, c, s⟩
      | (.error f, c, s) => ⟨[], .failed f, c, s⟩

/-- Pull until the answers run out, the limit is reached or a pull fails. -/
def drain (c : Cursor) (limit : Option Nat) (s : Surroundings) : Drained :=
  drainFrom c.pullsLeft limit c s

end Cursor

end TripleIndex
