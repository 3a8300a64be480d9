import TripleIndex.Session.Plans

/-!
Cursors of a session. A cursor acts on its reader and on the context of its query, and others who use
them see what it has done.
-/

namespace TripleIndex

namespace Session

/-- The context that a caller asks for. One that is known by name is taken as it is. -/
def requestQuery (request : Option ContextRequest) (default : Context) : Operation Nat := do
  let s ← get
  match request with
  | none =>
    set { s with queries := s.queries ++ [(⟨default, none⟩ : RunningQuery)] }
    return s.queries.length
  | some r =>
    match s.queryNames.lookup r.name with
    | some place => return place
    | none =>
      let place := s.queries.length
      set { s with
        queries := s.queries ++ [(⟨.fresh r.timeout, r.token⟩ : RunningQuery)]
        queryNames := s.queryNames.put r.name place }
      return place

/-- Ask for the cancellation of the queries that were made with a token, of which there must be one. -/
def requestCancellation (token : String) : Operation Unit := do
  if (← get).queries.any fun q => q.token = some token then
    modify fun s => { s with cancelled := token :: s.cancelled }
  else throw (.unknownKey token)

def queryAt (s : Session) (place : Nat) : RunningQuery :=
  s.queries.getD place ⟨.fresh none, none⟩

def isCancelled (s : Session) (token : Option String) : Bool :=
  match token with
  | none => false
  | some name => s.cancelled.contains name

/-- What surrounds a cursor at this moment. -/
def surroundings (s : Session) (c : OpenCursor) : Surroundings :=
  let query := s.queryAt c.query
  ⟨(c.reader.map s.readerAt).getD .closed, query.context, s.isCancelled query.token⟩

def settle (s : Session) (c : OpenCursor) (t : Surroundings) : Session :=
  { s with
    readers := match c.reader with
      | none => s.readers
      | some place => s.readers.set place t.reader
    queries := s.queries.set c.query { s.queryAt c.query with context := t.context } }

/-- Keep a cursor over a plan. It reads with the reader that is given, or else with that of the plan. -/
def keepCursor (name : String) (plan : Plan Nat) (reader : Option Nat) (size : JsonValue) (owns : Bool)
    (query : Nat) : Operation Context := do
  let place := reader <|> plan.reader
  let cursor ← ofResult (Cursor.make plan place.isSome size owns)
  let opened : OpenCursor := ⟨cursor, place, query⟩
  let s ← get
  let around := s.surroundings opened
  let settled := s.settle opened { around with reader := cursor.readerAtStart around.reader }
  set { settled with cursors := settled.cursors.put name opened }
  return around.context

/-- A cursor over the answers of patterns in the present state. -/
def execute (name : String) (patterns : List Pattern) (g : Option Term)
    (request : Option ContextRequest) : Operation Context := do
  let store := (← get).store
  let query ← requestQuery request store.defaultContext
  let place ← openReader
  let plan ← planAt place patterns g
  keepCursor name plan (some place) store.settings.fetchSize true query

/-- A cursor over the answers of a plan. Without a reader of its own it uses up that of the plan. -/
def executePlan (name planName : String) (reader : Option String) (request : Option ContextRequest) :
    Operation Context := do
  let store := (← get).store
  let plan ← findPlan planName
  let place ← findReader? reader
  let query ← requestQuery request store.defaultContext
  keepCursor name plan place store.settings.fetchSize place.isNone query

/-- A cursor with a page size and ownership of its own. -/
def openCursor (name planName : String) (reader : Option String) (size : JsonValue) (owns stripped : Bool)
    (request : Option ContextRequest) : Operation Context := do
  let plan ← findPlan planName
  let place ← findReader? reader
  let query ← requestQuery request (.fresh none)
  keepCursor name (if stripped then plan.stripped else plan) place size owns query

/-- What a cursor reports after each operation. -/
structure CursorReport (α : Type) where
  result : α
  failed : Bool
  context : Context

/-- Let a cursor that is known by name do something. -/
def withCursor {α : Type} (name : String) (act : Cursor → Surroundings → α × Cursor × Surroundings) :
    Operation (CursorReport α) := do
  let s ← get
  let opened ← ofResult (s.cursors.find name)
  let (result, cursor, around) := act opened.cursor (s.surroundings opened)
  let settled := s.settle opened around
  set { settled with cursors := settled.cursors.put name { opened with cursor := cursor } }
  return ⟨result, cursor.fault.isSome, around.context⟩

def hasNext (name : String) : Operation (CursorReport (Except Fault Bool)) :=
  withCursor name Cursor.hasNext

def next (name : String) : Operation (CursorReport (Except Fault Binding)) :=
  withCursor name Cursor.next

def drain (name : String) (limit : Option Nat) :
    Operation (CursorReport (List Binding × Cursor.Stop)) :=
  withCursor name fun c s =>
    let drained := c.drain limit s
    ((drained.answers, drained.stop), drained.cursor, drained.surroundings)

def countLeft (name : String) : Operation (CursorReport Nat) := do
  let report ← drain name none
  match report.result.2 with
  | .failed f => throw f
  | _ => return ⟨report.result.1.length, report.failed, report.context⟩

def close (name : String) : Operation (CursorReport Unit) :=
  withCursor name fun c s => ((), c.close s)

end Session

end TripleIndex
