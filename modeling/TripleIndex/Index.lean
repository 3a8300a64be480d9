import TripleIndex.Document
import TripleIndex.Field
import TripleIndex.Filter.Grammar
import TripleIndex.Names
import TripleIndex.Postings.Checked

/-!
The index: documents by identifier, and for each field of the schema a posting list of its values.
A query is answered clause by clause from the posting lists. The posting lists are kept in step with
the documents: a document that is replaced or removed first leaves the lists that its values are in.
An index is a value, so a snapshot of it is the index itself.
-/

namespace TripleIndex

/-- A document with the identifier that its place was first filed under. -/
structure Filed where
  id : DocId
  fields : Document
  deriving DecidableEq, Repr

structure Index where
  schema : Schema
  documents : Table Place Filed
  postings : List (String × Postings Scalar)

namespace Index

def empty (schema : Schema) : Index := ⟨schema, [], schema.map fun (name, _) => (name, .empty)⟩

def size (ix : Index) : Nat := ix.documents.length

def ids (ix : Index) : IdSet := .ofList (ix.documents.map fun entry => entry.2.id)

def filed? (ix : Index) (id : DocId) : Option Filed := ix.documents.lookup id.place

def postings? (ix : Index) (field : String) : Option (Postings Scalar) := ix.postings.lookup field

/-! ## Queries -/

def select (ix : Index) (c : Clause) : Except Fault IdSet :=
  match ix.postings? c.field with
  | none => .error (.unknownField c.field)
  | some p =>
    match c with
    | .term field value => do return p.lookup (← ix.schema.convert field value)
    | .range field lower upper => do
      let lower ← lower.mapM (ix.schema.convert field)
      let upper ← upper.mapM (ix.schema.convert field)
      return p.range lower upper

/-- Narrow a selection by one clause after the other. Nothing is selected by no clause yet, and once
no document is left the other clauses are not looked at. -/
def narrow (ix : Index) : Filter → Option IdSet → Except Fault (Option IdSet)
  | [], selected => .ok selected
  | c :: cs, selected =>
    if selected = some .empty then .ok selected
    else do
      let matching ← ix.select c
      ix.narrow cs (some (match selected with
        | none => matching
        | some s => s.inter matching))

/-- The documents that a query selects, of those in `within` if that is given. -/
def evaluate (ix : Index) (f : Filter) (within : Option IdSet) : Except Fault IdSet := do
  let selected ← ix.narrow f none
  return match within, selected with
    | some w, none => w
    | some w, some s => s.inter w
    | none, none => ix.ids
    | none, some s => s

/-- A query within a set selects no more than the set holds. -/
theorem size_evaluate_le {ix : Index} {f : Filter} {within selected : IdSet}
    (h : ix.evaluate f (some within) = .ok selected) : selected.size ≤ within.size := by
  unfold evaluate at h
  cases hn : ix.narrow f none with
  | error e => rw [hn] at h; cases h
  | ok s =>
    rw [hn] at h
    cases s with
    | none => cases h; exact Nat.le_refl _
    | some s => cases h; exact (s.size_inter_le within).2

/-! ## Changes -/

def modify (ix : Index) (field : String) (f : Postings Scalar → Postings Scalar) : Index :=
  { ix with postings := ix.postings.map fun (name, p) => (name, if name = field then f p else p) }

def enter (ix : Index) (id : DocId) (d : Document) : Index :=
  d.foldl (fun ix (field, value) => ix.modify field fun p => p.add value id) ix

def withdraw (ix : Index) (id : DocId) (d : Document) : Index :=
  d.foldl (fun ix (field, value) => ix.modify field fun p => p.remove value id) ix

def convertAll (schema : Schema) : Document → Except Fault Document
  | [] => .ok []
  | (field, value) :: rest => do
    let converted ← schema.convert field value
    return (field, converted) :: (← convertAll schema rest)

/-- File a document under its identifier, in place of the one that is there. -/
def put (ix : Index) (id : DocId) (d : Document) : Index :=
  let previous := ix.filed? id
  let cleared := match previous with
    | some old => ix.withdraw id old.fields
    | none => ix
  let first := (previous.map Filed.id).getD id
  { cleared with documents := ix.documents.put id.place ⟨first, d⟩ }.enter id d

/-- How many documents have ever been filed under a value that is no number. Such a value is never found
in a posting list, so none of them has left it. -/
def filedUnderNan (ix : Index) : Nat :=
  match ix.postings? Field.id with
  | none => 0
  | some p => p.keys.countP Scalar.isNan

/-- The identifier that a document is filed under. A value that is no number is a new one each time. -/
def newId (ix : Index) (v : Scalar) : DocId := if v.isNan then .float (.nan ix.filedUnderNan) else v

/-- Write a document, which needs an identifier and values that suit their fields. -/
def write (ix : Index) (d : Document) : Except Fault Index := do
  if !((d.lookup Field.id).getD .null).isSet then .error .noId
  else
    let stored ← convertAll ix.schema d
    return ix.put (ix.newId ((stored.lookup Field.id).getD .null)) stored

/-- Remove documents one after the other. The first that is not there ends the removal. -/
def removeAll (ix : Index) : List DocId → Index × Except Fault Unit
  | [] => (ix, .ok ())
  | id :: ids =>
    match ix.filed? id with
    | none => (ix, .error (.unknownId id))
    | some d =>
      removeAll ({ ix with documents := ix.documents.without id.place }.withdraw id d.fields) ids

/-- Remove the documents that a query selects, and tell how many they were. -/
def delete (ix : Index) (f : Filter) : Index × Except Fault Nat :=
  match ix.evaluate f none with
  | .error e => (ix, .error e)
  | .ok selected =>
    match ix.removeAll selected.toList with
    | (after, .ok ()) => (after, .ok selected.size)
    | (after, .error e) => (after, .error e)

/-- Remove the documents that the text of a query selects. -/
def deleteText (ix : Index) (text : String) : Index × Except Fault Nat :=
  match Filter.ofText text with
  | .error e => (ix, .error e)
  | .ok f => ix.delete f

/-! ## Figures -/

/-- How many documents the text of a query selects. -/
def count (ix : Index) (text : String) : Except Fault Nat := do
  let f ← Filter.ofText text
  return (← ix.evaluate f none).size

/-- The values of a field in ascending order, each once. -/
def distinctValues (ix : Index) (field : String) : Except Fault (List Scalar) :=
  match ix.postings? field with
  | none => .error (.unknownField field)
  | some p => .ok p.keys.toList

structure FieldStats where
  field : String
  keys : Nat
  entries : Nat
  deriving DecidableEq, Repr

/-- Keys and entries of the fields, in the order of the names of the fields. -/
def stats (ix : Index) : List FieldStats :=
  (ix.postings.map fun (name, p) => ⟨name, p.size, p.entryCount⟩).mergeSort
    fun a b => a.field ≤ b.field

end Index

end TripleIndex
