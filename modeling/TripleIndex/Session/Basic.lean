import TripleIndex.Store.Records

/-!
Sessions: a store together with what it has handed out. Readers, plans, cursors and searches are known
by name. Plans and cursors refer to readers, and cursors to the contexts of their queries, so these two
have a place of their own: what one user of a reader does to it, all of them see. An operation that
fails keeps what it has changed before it failed, and names are given last.
-/

namespace TripleIndex

/-- The context of a query, with the name under which its cancellation is requested. -/
structure RunningQuery where
  context : Context
  token : Option String

structure OpenCursor where
  cursor : Cursor
  reader : Option Nat
  query : Nat

/-- A search does nothing before its first pull. -/
inductive Search where
  | waiting (pattern : Pattern) (graph : Option Term)
  | begun (rest : Found)

/-- What a caller says about the context of a query. -/
structure ContextRequest where
  name : String
  timeout : Option Scalar
  token : Option String

structure Session where
  store : Store
  readers : List Reader
  queries : List RunningQuery
  cancelled : List String
  readerNames : Names Nat
  queryNames : Names Nat
  plans : Names (Plan Nat)
  cursors : Names OpenCursor
  searches : Names Search
  log : List LogRecord

/-- An operation on a session. -/
abbrev Operation := ExceptT Fault (StateM Session)

namespace Session

def ofStore (store : Store) : Session := ⟨store, [], [], [], [], [], [], [], [], []⟩

def perform {α : Type} (op : Operation α) (s : Session) : Except Fault α × Session :=
  op.run { s with log := [] }

def record (records : List LogRecord) : Operation Unit :=
  modify fun s => { s with log := s.log ++ records }

def ofResult {α : Type} : Except Fault α → Operation α
  | .ok a => pure a
  | .error f => throw f

/-! ## Readers -/

/-- Open a reader on the present state and tell its place. -/
def openReader : Operation Nat := do
  let s ← get
  set { s with readers := s.readers ++ [Reader.opened s.store.index] }
  return s.readers.length

def nameReader (name : String) : Operation Nat := do
  let place ← openReader
  modify fun s => { s with readerNames := s.readerNames.put name place }
  return (← get).store.size

def readerAt (s : Session) (place : Nat) : Reader := s.readers.getD place .closed

def closeReaderAt (place : Nat) : Operation Unit :=
  modify fun s => { s with readers := s.readers.set place .closed }

def findReader (name : String) : Operation Nat := do ofResult ((← get).readerNames.find name)

def closeReader (name : String) : Operation Unit := do closeReaderAt (← findReader name)

def isReaderClosed (name : String) : Operation Bool := do
  let place ← findReader name
  return ((← get).readerAt place).isClosed

def findReader? : Option String → Operation (Option Nat)
  | none => return none
  | some name => return some (← findReader name)

end Session

end TripleIndex
