import TripleIndex.Find
import TripleIndex.Query.Cursor
import TripleIndex.Query.Planner
import TripleIndex.Query.Select
import TripleIndex.Settings

/-!
The store: triples in graphs, each of them one document of the index. A triple is added to a graph at
most once, deletions remove the documents that the text of the compiled pattern selects, and a call
that is refused says which triple or pattern was refused and why.
-/

namespace TripleIndex

structure Store where
  settings : Settings
  pageSize : PageSize
  registry : Registry
  index : Index

namespace Store

/-- A store without triples. Its settings are checked. -/
def make (settings : Settings) (registry : Registry) : Except Fault Store := do
  let checked ← settings.checked
  let _ ← written checked.name.isWritable checked.name.plain
  return ⟨checked, ← PageSize.ofValue checked.fetchSize, registry, .empty Schema.triples⟩

def size (s : Store) : Nat := s.index.size

/-- A value that is neither a text nor compound makes no proper IRI. -/
def defaultGraph (s : Store) : Term :=
  match s.settings.defaultGraph with
  | .scalar (.text name) => .iri name
  | .scalar v => .iriOfValue v
  | v => .iri v.shown

/-- The graph that is meant, which is the default one if none is named. -/
def graph (s : Store) (g : Option Term) : Term := g.getD s.defaultGraph

/-! ## Changes -/

def addingFault (triple : Pattern) (f : Fault) : Fault :=
  if f.isValueFault || f.isTypeFault then (Fault.cannotAdd triple f).reported else f

def insert (s : Store) (triple : Pattern) (g : Option Term) : Except Fault Store :=
  match (document s.registry triple (some (s.graph g))).bind s.index.write with
  | .ok ix => .ok { s with index := ix }
  | .error f => .error (addingFault triple f)

/-- What a batch has done: how many triples it has added, the refused ones in their order, and the fault
that stopped it if one did. -/
structure Batch where
  inserted : Nat
  refused : List (Pattern × Fault)
  fault : Option Fault
  deriving Repr

/-- Add triples one by one. One that is refused does not stop the others, any other fault does. -/
def insertAll (s : Store) (g : Option Term) : List Pattern → Store × Batch
  | [] => (s, ⟨0, [], none⟩)
  | triple :: rest =>
    match s.insert triple g with
    | .ok t =>
      let (after, batch) := t.insertAll g rest
      (after, { batch with inserted := batch.inserted + 1 })
    | .error f =>
      if f.kind = .addDenied then
        let (after, batch) := s.insertAll g rest
        (after, { batch with refused := (triple, f) :: batch.refused })
      else (s, ⟨0, [], some f⟩)

def removeText (s : Store) (text : Except Fault String) : Store × Except Fault Nat :=
  match text with
  | .error f => (s, .error f)
  | .ok text => let (ix, removed) := s.index.deleteText text; ({ s with index := ix }, removed)

def deletingFault (p : Pattern) (f : Fault) : Fault :=
  if f.isValueFault || f.kind = .uncompilable then (Fault.cannotDelete p f).reported else f

def delete (s : Store) (p : Pattern) (g : Option Term) : Store × Except Fault Nat :=
  let (after, removed) := s.removeText (deleteText s.registry p (some (s.graph g)))
  (after, removed.mapError (deletingFault p))

def graphText (graph : Term) : Except Fault String :=
  (graphForm (some graph)).map fun form => (Clause.term Field.context (.text form)).text

def clearingFault (graph : Term) (f : Fault) : Fault :=
  if f.isValueFault || f.isTypeFault then (Fault.cannotClear graph f).reported else f

def clear (s : Store) (g : Option Term) : Store × Except Fault Nat :=
  let (after, removed) := s.removeText (graphText (s.graph g))
  (after, removed.mapError (clearingFault (s.graph g)))

/-! ## Questions -/

def count (s : Store) (g : Option Term) : Except Fault Nat := do
  s.index.count (← graphText (s.graph g))

def graphs (s : Store) : Except Fault (List Term) := do
  (← s.index.distinctValues Field.context).mapM fun v => Term.ofForm v.plain

/-- All documents in the order of their identifiers. -/
def documents (s : Store) : List Document :=
  s.index.ids.toList.filterMap fun id => (s.index.filed? id).map Filed.fields

def find (s : Store) (p : Pattern) (g : Option Term) : Found :=
  findIn s.registry s.index s.pageSize p (s.graph g)

/-! ## Queries -/

/-- Evaluate patterns on a reader with a number of workers, in exactly the graph that is given. -/
def evaluate (s : Store) (workers : JsonValue) (r : Reader) (patterns : List Pattern)
    (graph : Option Term) : Evaluation := .ofPatterns workers s.registry r graph patterns

/-- The time limit of queries that bring no context of their own. -/
def defaultContext (s : Store) : Context :=
  .fresh (s.settings.timeout.scalar?.bind fun v => if v = .null then none else some v)

/-- Answer a plan that was made with a reader on the present state. -/
def answer {ρ : Type} (s : Store) (plan : Plan ρ) : Except Fault Cursor.Drained := do
  let c ← Cursor.make plan true s.settings.fetchSize true
  return c.drain none ⟨c.readerAtStart (.opened s.index), s.defaultContext, false⟩

/-- The answers of a plan as a table of the names asked for. -/
def select {ρ : Type} (s : Store) (plan : Plan ρ) (names : List String) : Except Fault Frame := do
  let drained ← s.answer plan
  let entries ← drained.answers.mapM (cellsOf names)
  match drained.stop with
  | .failed f => .error f
  | _ => tableOf names entries

/-- The order of a join, every pattern shown even if the join has no answer. -/
def explain (s : Store) (patterns : List Pattern) (g : Option Term) : Except Fault Explanation := do
  let results ← (s.evaluate s.settings.workers (.opened s.index) patterns (some (s.graph g))).all
  let name ← graphForm (some (s.graph g))
  if results.isEmpty then return ⟨.ofText name, [], true⟩
  else return (Plan.joined (Plan.sorted results) (some name) (none : Option Unit)).explain

/-- The variables of patterns, each once, in the order in which they appear. -/
def variableNames (patterns : List Pattern) : List String :=
  (patterns.flatMap Pattern.variableSlots).eraseDups

end Store

end TripleIndex
