import TripleIndex.Session.Basic

/-!
Changes of the store of a session, and searches in it. A search does nothing before its first pull,
which takes the snapshot that all of it comes from.
-/

namespace TripleIndex

namespace Session

def insert (triple : Pattern) (g : Option Term) : Operation Nat := do
  let result := (← get).store.insert triple g
  record (Store.refusalRecords result)
  let store ← ofResult result
  modify fun s => { s with store := store }
  return store.size

def insertAll (triples : List Pattern) (g : Option Term) : Operation Store.Batch := do
  let (store, batch) := (← get).store.insertAll g triples
  modify fun s => { s with store := store }
  record (batch.refused.flatMap fun (_, f) => Store.refusalRecords (Except.error f : Except Fault Unit))
  match batch.fault with
  | some f => throw f
  | none => return batch

/-- Replace the store and report how many triples were removed and how many are left. -/
def removed (store : Store) (result : Except Fault Nat) : Operation (Nat × Nat) := do
  modify fun s => { s with store := store }
  return (← ofResult result, store.size)

def delete (p : Pattern) (g : Option Term) : Operation (Nat × Nat) := do
  let before := (← get).store
  let (after, result) := before.delete p g
  record (before.deletionRecords p g result)
  removed after result

def clear (g : Option Term) : Operation (Nat × Nat) := do
  let before := (← get).store
  let (after, result) := before.clear g
  record (before.clearingRecords g result)
  removed after result

/-- Add `n` triples with one predicate, whose subjects are numbered and whose objects are the numbers
modulo another number, each with the sign of that number. -/
def generate (subject predicate : String) (modulus : Int) (datatype : Option Scalar)
    (g : Option Term) (n : Nat) : Operation Nat := do
  for i in List.range n do
    if modulus = 0 then ofResult (.error .zeroModulus)
    let value := toString (Int.fmod i modulus)
    let object ← ofResult (Literal.make (.text value) none datatype)
    let _ ← insert ⟨.iri (subject ++ toString i), .iri predicate, .literal object⟩ g
  return (← get).store.size

/-! ## Searches -/

def openSearch (name : String) (p : Pattern) (g : Option Term) : Operation Unit :=
  modify fun s => { s with searches := s.searches.put name (.waiting p g) }

/-- What is left of a search. The first pull takes the snapshot. -/
def Search.found (store : Store) : Search → Found
  | .waiting p g => store.find p g
  | .begun rest => rest

def nextFound (name : String) : Operation (Option Pattern) := do
  let s ← get
  let (result, rest) := (Search.found s.store (← ofResult (s.searches.find name))).next
  modify fun s => { s with searches := s.searches.put name (.begun rest) }
  ofResult result

end Session

end TripleIndex
