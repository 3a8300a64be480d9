import TripleIndex.Fault
import TripleIndex.Postings

/-!
Posting lists side by side, changed in place. A list has its keys in ascending order and beside them the
places of their sets of documents, and it keeps count of its entries: the count goes up with each document that
is entered under a key and down with each that is removed, and nobody ever adds up the sets. The sets have
places of their own, so whoever knows the place of a set sees what is written there. A copy of a list has new
sets. The documents of a key that stands beyond the last set are a fault.
-/

namespace TripleIndex

/-- A posting list, its sets known by their places. -/
structure Ledger (κ : Type) where
  field : String
  keys : Array κ
  sets : Array Nat
  entries : Int

/-- Posting lists, and the sets of all of them. -/
structure Shelf (κ : Type) where
  ledgers : Array (Ledger κ)
  sets : Array IdSet

namespace Ledger

variable {κ : Type} [Key κ]

def empty (field : String) : Ledger κ := ⟨field, #[], #[], 0⟩

def setAt (sets : Array IdSet) (place : Nat) : IdSet := (sets[place]?).getD .empty

def postings (l : Ledger κ) (sets : Array IdSet) : Postings κ := ⟨l.keys, l.sets.map (setAt sets)⟩

/-- Where a key stands, for which the keys are all that is looked at. -/
def find? (l : Ledger κ) (k : κ) : Option Nat := (Postings.mk l.keys #[]).find? k

def lowerBound (l : Ledger κ) (k : κ) : Nat := (Postings.mk l.keys #[]).lowerBound k

/-- Where a key stands, and the place of its set. -/
def locate (l : Ledger κ) (k : κ) : Except Fault (Option (Nat × Nat)) :=
  match l.find? k with
  | none => .ok none
  | some i =>
    match l.sets[i]? with
    | none => .error .keyWithoutDocuments
    | some place => .ok (some (i, place))

def lookup (l : Ledger κ) (k : κ) (sets : Array IdSet) : Except Fault IdSet := do
  match ← l.locate k with
  | none => return .empty
  | some (_, place) => return setAt sets place

/-- The documents that hold a key between two bounds, both included and either one absent. -/
def range (l : Ledger κ) (lower upper : Option κ) (sets : Array IdSet) : Except Fault IdSet :=
  let p := l.postings sets
  let start := p.rangeStart lower
  let stop := p.rangeStop upper
  if start < stop && l.sets.size < stop then .error .keyWithoutDocuments else .ok (p.slice start stop)

/-- Enter a key, without documents. -/
def enterKey (l : Ledger κ) (k : κ) : Ledger κ :=
  { l with keys := l.keys.insertIdxIfInBounds (l.lowerBound k) k }

/-- Enter a document under a key. A document that is there already is not counted again, and a new key has
its set behind all others. -/
def add (l : Ledger κ) (k : κ) (id : DocId) (sets : Array IdSet) :
    Except Fault (Ledger κ × Array IdSet) := do
  match ← l.locate k with
  | some (_, place) =>
    let ids := setAt sets place
    if ids.contains id then return (l, sets)
    else return ({ l with entries := l.entries + 1 }, sets.setIfInBounds place (ids.insert id))
  | none =>
    let i := min (l.lowerBound k) l.sets.size
    return ({ l.enterKey k with
        sets := l.sets.insertIdxIfInBounds i sets.size, entries := l.entries + 1 },
      sets.push (.ofList [id]))

/-- Remove a document from a key, and the key with its last document. -/
def remove (l : Ledger κ) (k : κ) (id : DocId) (sets : Array IdSet) :
    Except Fault (Ledger κ × Array IdSet) := do
  match ← l.locate k with
  | none => return (l, sets)
  | some (i, place) =>
    if (setAt sets place).contains id then
      let left := (setAt sets place).erase id
      let l := { l with entries := l.entries - 1 }
      if left.isEmpty then
        return ({ l with keys := l.keys.eraseIdxIfInBounds i, sets := l.sets.eraseIdxIfInBounds i },
          sets.setIfInBounds place left)
      else return (l, sets.setIfInBounds place left)
    else return (l, sets)

def copy (l : Ledger κ) (sets : Array IdSet) : Ledger κ × Array IdSet :=
  ({ l with sets := Array.range' sets.size l.sets.size }, sets ++ l.sets.map (setAt sets))

end Ledger

namespace Shelf

variable {κ : Type} [Key κ]

def empty : Shelf κ := ⟨#[], #[]⟩

/-- Put another list next to the others. -/
def push (s : Shelf κ) (l : Ledger κ) (sets : Array IdSet) : Shelf κ := ⟨s.ledgers.push l, sets⟩

/-- Put a list in the place of another. -/
def put (s : Shelf κ) (a : Nat) (l : Ledger κ) (sets : Array IdSet) : Shelf κ :=
  ⟨s.ledgers.setIfInBounds a l, sets⟩

def make (s : Shelf κ) (field : String) : Shelf κ := s.push (.empty field) s.sets

/-- Change the list at a place in place. Where there is none, nothing is changed. -/
def change (s : Shelf κ) (a : Nat)
    (f : Ledger κ → Array IdSet → Except Fault (Ledger κ × Array IdSet)) : Except Fault (Shelf κ) :=
  match s.ledgers[a]? with
  | none => .ok s
  | some l => do
    let (l, sets) ← f l s.sets
    return s.put a l sets

def copy (s : Shelf κ) (a : Nat) : Shelf κ :=
  match s.ledgers[a]? with
  | none => s
  | some l => s.push (l.copy s.sets).1 (l.copy s.sets).2

/-- What is done to posting lists, which are told by their places. -/
inductive Call (κ : Type) where
  | make (field : String)
  | add (list : Nat) (key : κ) (id : DocId)
  | remove (list : Nat) (key : κ) (id : DocId)
  | copy (list : Nat)

def call (s : Shelf κ) : Call κ → Except Fault (Shelf κ)
  | .make field => .ok (s.make field)
  | .add a k id => s.change a fun l sets => l.add k id sets
  | .remove a k id => s.change a fun l sets => l.remove k id sets
  | .copy a => .ok (s.copy a)

/-- Do one thing after the other, up to the first fault. -/
def callAll (s : Shelf κ) (calls : List (Call κ)) : Except Fault (Shelf κ) := calls.foldlM call s

end Shelf

end TripleIndex
