import TripleIndex.Postings.Checked
import TripleIndex.Postings.Shelf

/-!
Posting lists over values of any type, changed in place. What cannot be compared is refused before anything is
looked for. A key whose document turns out to be no identifier has been entered by then, and stays without a
set.
-/

namespace TripleIndex

namespace Ledger

def lookupChecked (l : Ledger Scalar) (k : Scalar) (sets : Array IdSet) : Except Fault IdSet := do
  (l.postings sets).check k false
  l.lookup k sets

def rangeChecked (l : Ledger Scalar) (lower upper : Option Scalar) (sets : Array IdSet) :
    Except Fault IdSet := do
  (l.postings sets).checkBound false lower
  (l.postings sets).checkBound true upper
  l.range lower upper sets

def addChecked (l : Ledger Scalar) (k : Scalar) (id : JsonValue) (sets : Array IdSet) :
    (Ledger Scalar × Array IdSet) × Except Fault Unit :=
  match (l.postings sets).check k false, l.locate k, DocId.ofValue id with
  | .error f, _, _ => ((l, sets), .error f)
  | .ok (), .error f, _ => ((l, sets), .error f)
  | .ok (), .ok none, .error f => ((l.enterKey k, sets), .error f)
  | .ok (), .ok (some _), .error f => ((l, sets), .error f)
  | .ok (), .ok _, .ok id =>
    match l.add k id sets with
    | .ok changed => (changed, .ok ())
    | .error f => ((l, sets), .error f)

/-- Remove a document from a key. The identifier is looked at only if the key is there. -/
def removeChecked (l : Ledger Scalar) (k : Scalar) (id : JsonValue) (sets : Array IdSet) :
    Except Fault (Ledger Scalar × Array IdSet) := do
  (l.postings sets).check k false
  match ← l.locate k with
  | none => return (l, sets)
  | some _ => l.remove k (← DocId.ofValue id) sets

end Ledger

end TripleIndex
