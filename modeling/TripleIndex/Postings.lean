import TripleIndex.IdSet
import TripleIndex.Number.Total

/-!
Posting lists: keys in ascending order in one array, and beside it an array with the documents of each
key. A key is found by bisection, so only comparisons decide where it belongs, and a key that equals
nothing, not even itself, is entered anew each time and never found again. The operations keep both
arrays equally long; only a key that is entered without documents makes a difference between them.
-/

namespace TripleIndex

/-- Values that can be compared. -/
class Key (κ : Type) where
  lt : κ → κ → Bool
  same : κ → κ → Bool

structure Postings (κ : Type) where
  keys : Array κ
  lists : Array IdSet
  deriving Repr

/-- The place in `[low, high)` where a test that holds first and then fails no longer holds, found
by halving; `high` when it never fails. -/
def partitionPoint (holds : Nat → Bool) : Nat → Nat → Nat → Nat
  | 0, low, _ => low
  | steps + 1, low, high =>
    if low < high then
      let middle := (low + high) / 2
      if holds middle then partitionPoint holds steps (middle + 1) high
      else partitionPoint holds steps low middle
    else low

namespace Postings

variable {κ : Type} [Key κ]

def empty : Postings κ := ⟨#[], #[]⟩

def size (p : Postings κ) : Nat := p.keys.size

/-- Documents counted once for each key that they are entered under. -/
def entryCount (p : Postings κ) : Nat := total (p.lists.toList.map IdSet.size)

/-- A test of the key at a place, which fails beyond the last one. -/
def keyAt (p : Postings κ) (test : κ → Bool) (i : Nat) : Bool :=
  match p.keys[i]? with
  | some key => test key
  | none => false

/-- The first place whose key is not below the given one. -/
def lowerBound (p : Postings κ) (k : κ) : Nat :=
  partitionPoint (p.keyAt fun key => Key.lt key k) p.size 0 p.size

/-- The first place whose key is above the given one. -/
def upperBound (p : Postings κ) (k : κ) : Nat :=
  partitionPoint (p.keyAt fun key => !Key.lt k key) p.size 0 p.size

def find? (p : Postings κ) (k : κ) : Option Nat :=
  let i := p.lowerBound k
  if p.keyAt (Key.same · k) i then some i else none

def listAt (p : Postings κ) (i : Nat) : IdSet := (p.lists[i]?).getD .empty

def lookup (p : Postings κ) (k : κ) : IdSet :=
  match p.find? k with
  | some i => p.listAt i
  | none => .empty

def rangeStart (p : Postings κ) (lower : Option κ) : Nat := (lower.map p.lowerBound).getD 0

def rangeStop (p : Postings κ) (upper : Option κ) : Nat := (upper.map p.upperBound).getD p.size

/-- The documents of the places from `start` on and before `stop`. -/
def slice (p : Postings κ) (start stop : Nat) : IdSet :=
  (p.lists.extract start stop).foldl IdSet.union .empty

/-- The documents that hold a key between two bounds, both included and either one absent. -/
def range (p : Postings κ) (lower upper : Option κ) : IdSet :=
  p.slice (p.rangeStart lower) (p.rangeStop upper)

/-- Enter a key, without documents. -/
def enterKey (p : Postings κ) (k : κ) : Postings κ :=
  { p with keys := p.keys.insertIdxIfInBounds (p.lowerBound k) k }

/-- Put documents at a place, or behind all others if the place lies beyond them. -/
def enterList (p : Postings κ) (i : Nat) (ids : IdSet) : Postings κ :=
  { p with lists := p.lists.insertIdxIfInBounds (min i p.lists.size) ids }

def add (p : Postings κ) (k : κ) (id : DocId) : Postings κ :=
  match p.find? k with
  | some i => { p with lists := p.lists.setIfInBounds i ((p.listAt i).insert id) }
  | none => (p.enterKey k).enterList (p.lowerBound k) (.ofList [id])

/-- Remove a document from a key, and the key with its last document. -/
def remove (p : Postings κ) (k : κ) (id : DocId) : Postings κ :=
  match p.find? k with
  | none => p
  | some i =>
    let ids := (p.listAt i).erase id
    if ids.isEmpty then ⟨p.keys.eraseIdxIfInBounds i, p.lists.eraseIdxIfInBounds i⟩
    else { p with lists := p.lists.setIfInBounds i ids }

end Postings

end TripleIndex
