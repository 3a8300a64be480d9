import TripleIndex.Compile
import TripleIndex.Limit
import TripleIndex.Reader

/-!
Triples that match one pattern. They are read page by page from one snapshot, each page beginning after
the mark that the one before it has left; a document that gives one variable two values is passed over.
Reading stops at the first fault.
-/

namespace TripleIndex

/-- What a search has given: triples, and the fault that ended it if one did. -/
structure Found where
  triples : List Pattern
  fault : Option Fault
  deriving Repr

namespace Found

def none : Found := ⟨[], .none⟩

def failed (f : Fault) : Found := ⟨[], some f⟩

/-- Go on with another part of the search unless this one has failed. -/
def andThen (first : Found) (second : Unit → Found) : Found :=
  match first.fault with
  | some _ => first
  | .none => let rest := second (); ⟨first.triples ++ rest.triples, rest.fault⟩

/-- What has been found before a fault counts only as long as there is no fault. -/
def all (found : Found) : Except Fault (List Pattern) :=
  match found.fault with
  | some f => .error f
  | .none => .ok found.triples

/-- The first triple and what is left after it. After a fault nothing is left. -/
def next (found : Found) : Except Fault (Option Pattern) × Found :=
  match found.triples, found.fault with
  | t :: rest, fault => (.ok (some t), ⟨rest, fault⟩)
  | [], some f => (.error f, none)
  | [], .none => (.ok .none, none)

end Found

/-- The triple of a document if the document matches the pattern. -/
def matchingTriple (r : Reader) (p : Pattern) (id : DocId) : Except Fault (Option Pattern) := do
  let fields ← r.read id
  match ← bindDocument p fields [] with
  | none => return none
  | some _ => return some (← tripleOf fields)

def findInPage (r : Reader) (p : Pattern) : List DocId → Found
  | [] => .none
  | id :: ids =>
    match matchingTriple r p id with
    | .error f => .failed f
    | .ok none => findInPage r p ids
    | .ok (some t) => Found.andThen ⟨[t], none⟩ fun _ => findInPage r p ids

/-- One page of the answer to a query, of the size that the settings ask for. -/
def searchPage (r : Reader) (f : Filter) (size : PageSize) (mark : Option DocId) :
    Except Fault (List DocId × Option DocId) := do
  let ids ← r.evaluate f none
  r.markedPage ids mark (← size.count)

/-- Page after page from a mark on, given at least as much fuel as there are pages. -/
def findPages (r : Reader) (p : Pattern) (f : Filter) (size : PageSize) :
    Nat → Option DocId → Found
  | 0, _ => .none
  | fuel + 1, mark =>
    match searchPage r f size mark with
    | .error e => .failed e
    | .ok (ids, next) =>
      (findInPage r p ids).andThen fun _ =>
        match next with
        | none => .none
        | some mark => findPages r p f size fuel (some mark)

/-- The triples in a graph that match a pattern, as a snapshot has them. -/
def findIn (registry : Registry) (snapshot : Index) (size : PageSize) (p : Pattern) (graph : Term) :
    Found :=
  match compile registry p (some graph) with
  | .error e => .failed e
  | .ok f => findPages (.opened snapshot) p f size (snapshot.size + 1) none

end TripleIndex
