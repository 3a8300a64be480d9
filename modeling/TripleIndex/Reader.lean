import TripleIndex.Index
import TripleIndex.Limit

/-!
Readers. A reader answers from the snapshot that it was opened on until it is closed; a closed one
refuses every request. Identifiers come in pages of ascending order, a page beginning after a mark.
-/

namespace TripleIndex

/-- A reader is open on a snapshot, or closed. -/
inductive Reader where
  | opened (snapshot : Index)
  | closed

namespace Reader

def isClosed : Reader → Bool
  | opened _ => false
  | closed => true

def snapshot : Reader → Except Fault Index
  | opened ix => .ok ix
  | closed => .error .readerClosed

def evaluate (r : Reader) (f : Filter) (within : Option IdSet) : Except Fault IdSet := do
  (← r.snapshot).evaluate f within

def count (r : Reader) (f : Filter) : Except Fault Nat := do
  return (← r.evaluate f none).size

def read (r : Reader) (id : DocId) : Except Fault Document := do
  match (← r.snapshot).filed? id with
  | some d => return d.fields
  | none => .error (.documentNotFound id)

def size (r : Reader) : Except Fault Nat := do return (← r.snapshot).size

/-- The elements from `start` on, up to `rows` of them. A negative number of rows sets the end of the
page that many places before the end of the list, counted from the start of the page. -/
def pageFrom (ids : List DocId) (start : Nat) (rows : Int) : List DocId :=
  let stop : Int := start + rows
  let stop := if stop < 0 then stop + ids.length else stop
  (ids.take stop.toNat).drop start

/-- A page of a positive number of rows is cut out of the list. -/
theorem pageFrom_natCast (ids : List DocId) (start rows : Nat) :
    pageFrom ids start rows = (ids.take (start + rows)).drop start := by
  have h : ¬ ((start : Int) + (rows : Int) < 0) := by omega
  have hn : ((start : Int) + (rows : Int)).toNat = start + rows := by omega
  simp only [pageFrom, h, if_false, hn]

/-- How many identifiers are not after the mark. -/
def passed (ids : IdSet) : Option DocId → Nat
  | none => 0
  | some mark => (ids.toList.takeWhile fun id => !(mark.place < id.place)).length

/-- Everything up to the last identifier of a page is not after it. -/
theorem length_le_passed {ids : IdSet} {stop : Nat} {last : DocId}
    (h : (ids.toList.take stop).getLast? = some last) :
    (ids.toList.take stop).length ≤ passed ids (some last) := by
  have hasc := ids.ascending.sublist (List.take_sublist stop ids.toList)
  have hall : ∀ id ∈ ids.toList.take stop, (!decide (last.place < id.place)) = true := fun id hid => by
    simp [hasc.not_last_lt h hid]
  show _ ≤ (ids.toList.takeWhile fun id => !(last.place < id.place)).length
  conv => rhs; rw [← List.take_append_drop stop ids.toList]
  rw [List.takeWhile_append_of_pos hall, List.length_append]
  exact Nat.le_add_right _ _

/-- The members of a set can be listed only if they have an order among themselves. -/
def checkOrder (ids : IdSet) : Except Fault Unit :=
  match (ids.toList.zip (ids.toList.drop 1)).find? fun (a, b) => !a.comparable b with
  | some (a, b) => .error (.unordered "<" a.typeName b.typeName)
  | none => .ok ()

/-- A mark is compared with the identifiers of a set, first with the one in the middle. -/
def checkMark (ids : IdSet) (mark : Option DocId) : Except Fault Unit :=
  match mark, ids.toList[ids.size / 2]? with
  | some mark, some id =>
    if mark.comparable id then .ok () else .error (.unordered "<" mark.typeName id.typeName)
  | _, _ => .ok ()

/-- The page of a set that begins after a mark. -/
def page (r : Reader) (ids : IdSet) (mark : Option DocId) (rows : Int) :
    Except Fault (List DocId) := do
  let _ ← r.snapshot
  checkOrder ids
  checkMark ids mark
  return pageFrom ids.toList (passed ids mark) rows

/-- The mark for the page after this one, unless it is the last. -/
def nextMark (ids : IdSet) (page : List DocId) (rows : Int) : Except Fault (Option DocId) :=
  if (page.length : Int) = rows then
    match page.getLast? with
    | none => .error .emptyPage
    | some last => .ok (if ids.toList.getLast?.map Scalar.place = some last.place then none else some last)
  else .ok none

/-- A page of a set, with the mark for the next one. -/
def markedPage (r : Reader) (ids : IdSet) (mark : Option DocId) (rows : Int) :
    Except Fault (List DocId × Option DocId) := do
  let page ← r.page ids mark rows
  return (page, ← nextMark ids page rows)

/-- A page of the answer to a query, with the mark for the next one. -/
def search (r : Reader) (f : Filter) (rows : Int) (mark : Option DocId) :
    Except Fault (List DocId × Option DocId) := do
  r.markedPage (← r.evaluate f none) mark rows

/-! ## Requests

What is asked for comes from outside and may be any value. -/

/-- The identifiers that a value has in it: the items of an array, the names of members, or the
characters of a text. -/
def requestedIds : JsonValue → Except Fault (List DocId)
  | .array items => items.mapM DocId.ofValue
  | .object members => .ok (members.map fun (name, _) => .text name)
  | .scalar (.text s) => .ok (s.toList.map fun c => .text c.toString)
  | v => .error (.notIterable v.typeName)

def requestedSet (v : JsonValue) : Except Fault IdSet := (requestedIds v).map .ofList

def requestedRead (r : Reader) (id : JsonValue) : Except Fault Document := do
  let _ ← r.snapshot
  r.read (← DocId.ofValue id)

/-- The mark that a value is. A compound one can be compared with no identifier. -/
def requestedMark (ids : IdSet) (mark : JsonValue) : Except Fault (Option DocId) :=
  match mark, ids.toList[ids.size / 2]? with
  | .scalar .null, _ => .ok none
  | .scalar v, _ => (checkMark ids (some v)).map fun _ => some v
  | _, none => .ok none
  | v, some id => .error (.unordered "<" v.typeName id.typeName)

/-- A page of any number of rows that is asked for. -/
def requestedPage (r : Reader) (ids : IdSet) (mark rows : JsonValue) : Except Fault (List DocId) := do
  let _ ← r.snapshot
  checkOrder ids
  let mark ← requestedMark ids mark
  r.page ids mark (← rowCount rows)

/-- A page of any number of rows of the answer to a query, with the mark for the next one. -/
def requestedSearch (r : Reader) (f : Filter) (rows mark : JsonValue) :
    Except Fault (List DocId × Option DocId) := do
  let ids ← r.evaluate f none
  let mark ← requestedMark ids mark
  r.markedPage ids mark (← rowCount rows)

end Reader

end TripleIndex
