import TripleIndex.Index

/-!
An index as it lies in memory. Its documents stand in one table, and each posting list is an array of keys
beside an array of the places of its sets of documents. Tables, lists and sets have places of their own,
and everybody who knows a place sees what is written there. Changes are made in place: a set that gains or
loses a document stays where it is, and only a new key has a new set. A copy has new places for
everything, down to the sets.
-/

namespace TripleIndex

/-- A posting list, its sets known by their places. -/
structure Listing where
  keys : Array Scalar
  sets : Array Nat

/-- Everything that is stored, by kind and place. -/
structure Memory where
  tables : Array (Table Place Filed)
  listings : Array Listing
  sets : Array IdSet

/-- The places of the parts of one index. -/
structure Layout where
  documents : Nat
  postings : List (String × Nat)

namespace Memory

def tableAt (m : Memory) (place : Nat) : Table Place Filed := (m.tables[place]?).getD []

def listingAt (m : Memory) (place : Nat) : Listing := (m.listings[place]?).getD ⟨#[], #[]⟩

def setAt (m : Memory) (place : Nat) : IdSet := (m.sets[place]?).getD .empty

def postingsAt (m : Memory) (place : Nat) : Postings Scalar :=
  ⟨(m.listingAt place).keys, (m.listingAt place).sets.map m.setAt⟩

/-- The index that lies in some places. -/
def read (m : Memory) (schema : Schema) (l : Layout) : Index :=
  ⟨schema, m.tableAt l.documents, l.postings.map fun (name, place) => (name, m.postingsAt place)⟩

def putTable (m : Memory) (place : Nat) (t : Table Place Filed) : Memory :=
  { m with tables := m.tables.setIfInBounds place t }

def putListing (m : Memory) (place : Nat) (listing : Listing) : Memory :=
  { m with listings := m.listings.setIfInBounds place listing }

def putSet (m : Memory) (place : Nat) (ids : IdSet) : Memory :=
  { m with sets := m.sets.setIfInBounds place ids }

def pushTable (m : Memory) (t : Table Place Filed) : Memory := { m with tables := m.tables.push t }

def pushSet (m : Memory) (ids : IdSet) : Memory := { m with sets := m.sets.push ids }

/-- An index without documents, the first thing in memory. -/
def start (schema : Schema) : Memory × Layout :=
  (⟨#[[]], Array.replicate schema.length ⟨#[], #[]⟩, #[]⟩, ⟨0, (schema.map Prod.fst).zipIdx⟩)

/-! ## Copies -/

def copyListing (m : Memory) (place : Nat) : Memory :=
  let listing := m.listingAt place
  { m with
    listings := m.listings.push ⟨listing.keys, Array.range' m.sets.size listing.sets.size⟩
    sets := m.sets ++ listing.sets.map m.setAt }

def copyPostings (m : Memory) : List (String × Nat) → Memory × List (String × Nat)
  | [] => (m, [])
  | (name, place) :: rest =>
    let (after, copied) := (m.copyListing place).copyPostings rest
    (after, (name, m.listings.size) :: copied)

def copy (m : Memory) (l : Layout) : Memory × Layout :=
  let (after, postings) := (m.pushTable (m.tableAt l.documents)).copyPostings l.postings
  (after, ⟨m.tables.size, postings⟩)

/-! ## Changes in place -/

end Memory

/-- The place of a key among the keys, which are all that is looked at. -/
def Listing.find? (listing : Listing) (k : Scalar) : Option Nat := (Postings.mk listing.keys #[]).find? k

def Listing.lowerBound (listing : Listing) (k : Scalar) : Nat :=
  (Postings.mk listing.keys #[]).lowerBound k

namespace Memory

/-- Enter a document under a key of the list at a place. -/
def addAt (m : Memory) (place : Nat) (k : Scalar) (id : DocId) : Memory :=
  let listing := m.listingAt place
  match listing.find? k with
  | some i =>
    match listing.sets[i]? with
    | some set => m.putSet set ((m.setAt set).insert id)
    | none => m
  | none =>
    let i := listing.lowerBound k
    (m.pushSet (.ofList [id])).putListing place
      ⟨listing.keys.insertIdxIfInBounds i k,
        listing.sets.insertIdxIfInBounds (min i listing.sets.size) m.sets.size⟩

/-- Take the document out of the set at a place, if there is such a set, and tell what is left in it. -/
def eraseFrom (m : Memory) (id : DocId) : Option Nat → Memory × IdSet
  | none => (m, .empty)
  | some set => (m.putSet set ((m.setAt set).erase id), (m.setAt set).erase id)

/-- Remove a document from a key of the list at a place, and the key with its last document. -/
def removeAt (m : Memory) (place : Nat) (k : Scalar) (id : DocId) : Memory :=
  let listing := m.listingAt place
  match listing.find? k with
  | none => m
  | some i =>
    let (after, left) := m.eraseFrom id listing.sets[i]?
    if left.isEmpty then
      after.putListing place ⟨listing.keys.eraseIdxIfInBounds i, listing.sets.eraseIdxIfInBounds i⟩
    else after

def alter (m : Memory) (l : Layout) (field : String) (change : Memory → Nat → Memory) : Memory :=
  l.postings.foldl (fun m (name, place) => if name = field then change m place else m) m

def enter (m : Memory) (l : Layout) (id : DocId) (d : Document) : Memory :=
  d.foldl (fun m (field, value) => m.alter l field fun m place => m.addAt place value id) m

def withdraw (m : Memory) (l : Layout) (id : DocId) (d : Document) : Memory :=
  d.foldl (fun m (field, value) => m.alter l field fun m place => m.removeAt place value id) m

/-- File a document under its identifier, in place of the one that is there. -/
def put (m : Memory) (l : Layout) (id : DocId) (d : Document) : Memory :=
  let documents := m.tableAt l.documents
  let previous := documents.lookup id.place
  let cleared := match previous with
    | some old => m.withdraw l id old.fields
    | none => m
  let first := (previous.map Filed.id).getD id
  (cleared.putTable l.documents (documents.put id.place ⟨first, d⟩)).enter l id d

/-- Remove documents one after the other. The first that is not there ends the removal. -/
def removeAll (m : Memory) (l : Layout) : List DocId → Memory × Except Fault Unit
  | [] => (m, .ok ())
  | id :: ids =>
    match (m.tableAt l.documents).lookup id.place with
    | none => (m, .error (.unknownId id))
    | some d =>
      removeAll ((m.putTable l.documents ((m.tableAt l.documents).without id.place)).withdraw l id d.fields)
        l ids

end Memory

end TripleIndex
