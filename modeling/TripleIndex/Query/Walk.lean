import TripleIndex.Limit
import TripleIndex.Number.Total
import TripleIndex.Query.Context
import TripleIndex.Query.Plan
import TripleIndex.Reader

/-!
The walk through a join. It goes depth first and keeps a stack of levels, one for each step that it is
in: a level holds the binding that led to it and the documents it has still to visit. A visited
document extends the binding; at the last step that is an answer, and before it the documents of the
next step are narrowed to those that agree with the binding. The documents of the first step come from
the reader page by page. The work that a stack can still cause is bounded, and every step of the walk
lowers it, so the bound is enough fuel.
-/

namespace TripleIndex

/-- Where the walk stands in one step of the plan. `below` are the steps after it. -/
structure Level where
  step : Candidates
  below : List Candidates
  parent : Binding
  pending : List DocId
  next : Option (Option DocId)
  deriving DecidableEq, Repr

namespace Level

def paged (step : Candidates) (below : List Candidates) : Level := ⟨step, below, [], [], some none⟩

/-- A level with documents that are known. -/
def listed (step : Candidates) (below : List Candidates) (parent : Binding) (ids : IdSet) : Level :=
  ⟨step, below, parent, ids.toList, none⟩

/-- Get the next page if the last one is used up and was not the last of all. -/
def fetch (l : Level) (r : Reader) (size : PageSize) : Except Fault Level :=
  match l.pending, l.next with
  | [], some mark => do
    let _ ← r.snapshot
    Reader.checkOrder l.step.ids
    let rows ← size.count
    let page := Reader.pageFrom l.step.ids.toList (Reader.passed l.step.ids mark) rows
    return { l with pending := page, next := if page.length < rows then none else some page.getLast? }
  | _, _ => .ok l

/-- Documents that the level has still to visit. -/
def left (l : Level) : Nat :=
  l.pending.length + (match l.next with
    | none => 0
    | some mark => l.step.ids.size - Reader.passed l.step.ids mark)

end Level

/-- Steps of the walk that the steps of a plan can cause, once their level is entered. -/
def planWork : List Candidates → Nat
  | [] => 0
  | c :: below => c.ids.size * (1 + planWork below) + 1

def Level.work (l : Level) : Nat := l.left * (1 + planWork l.below) + 1

def stackWork (stack : List Level) : Nat := total (stack.map Level.work)

namespace Candidates

/-- The pattern of a step, which a placeholder lacks. -/
def requirePattern (c : Candidates) : Except Fault Pattern :=
  match c.pattern with
  | some p => .ok p
  | none => .error .noPattern

/-- What a document makes of a binding at this step. -/
def extend (c : Candidates) (r : Reader) (id : DocId) (parent : Binding) :
    Except Fault (Option Binding) := do
  let fields ← r.read id
  bindDocument (← c.requirePattern) fields parent

/-- The documents of a step that agree with a binding, given the query that says so. -/
def narrow (c : Candidates) (r : Reader) (f : Filter) : Except Fault IdSet :=
  if f.isEmpty then .ok c.ids else r.evaluate f (some c.ids)

end Candidates

/-- The outcome of one step of the walk. -/
inductive Progress where
  | ended (context : Context)
  | failed (fault : Fault) (context : Context)
  | found (answer : Binding) (stack : List Level) (context : Context)
  | onward (stack : List Level) (context : Context)

/-- Enter the next step with a binding, unless no document of it agrees. -/
def descend (r : Reader) (next : Candidates) (below : List Candidates) (b : Binding)
    (stack : List Level) (c : Context) : Progress :=
  match next.requirePattern.bind (joinFilter · b) with
  | .error f => .failed f c
  | .ok query =>
    let counted := if query.isEmpty then c else c.recordJoin
    match next.narrow r query with
    | .error f => .failed f counted
    | .ok ids =>
      if ids.isEmpty then .onward stack counted
      else .onward (.listed next below b ids :: stack) counted

def visit (r : Reader) (requested : Bool) (l : Level) (id : DocId) (stack : List Level)
    (c : Context) : Progress :=
  match c.countRow requested with
  | (counted, some f) => .failed f counted
  | (counted, none) =>
    match l.step.extend r id l.parent with
    | .error f => .failed f counted
    | .ok none => .onward stack counted
    | .ok (some b) =>
      match l.below with
      | [] => .found b stack counted
      | next :: below => descend r next below b stack counted

/-- One step: leave the level on top if nothing is left of it, or visit its next document. Whether the
query may go on is looked at first. -/
def walkStep (r : Reader) (size : PageSize) (requested : Bool) (stack : List Level) (c : Context) :
    Progress :=
  match stack with
  | [] => .ended c
  | top :: outer =>
    match c.check requested with
    | (stopped, some f) => .failed f stopped
    | (c, none) =>
      match top.fetch r size with
      | .error f => .failed f c
      | .ok l =>
        match l.pending with
        | [] => .onward outer c
        | id :: rest => visit r requested l id ({ l with pending := rest } :: outer) c

/-- Walk to the next answer, given fuel. -/
def walk (r : Reader) (size : PageSize) (requested : Bool) : Nat → List Level → Context → Progress
  | 0, stack, c => .onward stack c
  | fuel + 1, stack, c =>
    match walkStep r size requested stack c with
    | .onward stack c => walk r size requested fuel stack c
    | settled => settled

end TripleIndex
