import TripleIndex.Fault
import TripleIndex.Json.Value
import TripleIndex.Postings

/-!
Posting lists over values of any type. Values without an order among themselves cannot stand in one
list, and the first comparison of a search is with the key in the middle, so that key decides
whether a value can be searched at all. A key is entered before its documents: where the value given
for a document is no identifier the key stays without any, and the documents of the keys after it stand
one place too early from then on.
-/

namespace TripleIndex

instance : Key Scalar := ⟨Scalar.lt, Scalar.same⟩

/-- The identifier that a value from outside is. A compound one is none. -/
def DocId.ofValue : JsonValue → Except Fault DocId
  | .scalar v => .ok v
  | v => .error (.unhashable v.typeName)

namespace Postings

/-- The fault of a search that cannot compare. The flag says that the value sought stands on the
left of the comparison. -/
def check (p : Postings Scalar) (k : Scalar) (onLeft : Bool) : Except Fault Unit :=
  match p.keys[p.size / 2]? with
  | none => .ok ()
  | some key =>
    if key.comparable k then .ok ()
    else if onLeft then .error (.unordered "<" k.typeName key.typeName)
    else .error (.unordered "<" key.typeName k.typeName)

/-- All places before `stop` need documents, unless `start` is not before it. -/
def checkLists (p : Postings Scalar) (start stop : Nat) : Except Fault Unit :=
  if start < stop && p.lists.size < stop then .error .keyWithoutDocuments else .ok ()

def findChecked (p : Postings Scalar) (k : Scalar) : Except Fault (Option Nat) := do
  p.check k false
  match p.find? k with
  | none => return none
  | some i =>
    p.checkLists i (i + 1)
    return some i

def lookupChecked (p : Postings Scalar) (k : Scalar) : Except Fault IdSet := do
  let _ ← p.findChecked k
  return p.lookup k

def checkBound (p : Postings Scalar) (onLeft : Bool) : Option Scalar → Except Fault Unit
  | none => .ok ()
  | some k => p.check k onLeft

def rangeChecked (p : Postings Scalar) (lower upper : Option Scalar) : Except Fault IdSet := do
  p.checkBound false lower
  p.checkBound true upper
  p.checkLists (p.rangeStart lower) (p.rangeStop upper)
  return p.range lower upper

def addChecked (p : Postings Scalar) (k : Scalar) (id : JsonValue) :
    Postings Scalar × Except Fault Unit :=
  match p.findChecked k, DocId.ofValue id with
  | .error f, _ => (p, .error f)
  | .ok _, .ok id => (p.add k id, .ok ())
  | .ok (some _), .error f => (p, .error f)
  | .ok none, .error f => (p.enterKey k, .error f)

/-- Remove a document from a key. The identifier is looked at only if the key is there. -/
def removeChecked (p : Postings Scalar) (k : Scalar) (id : JsonValue) :
    Except Fault (Postings Scalar) := do
  match ← p.findChecked k with
  | none => return p
  | some _ => return p.remove k (← DocId.ofValue id)

end Postings

end TripleIndex
