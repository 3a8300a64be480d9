import TripleIndex.Proofs.Join.Visits
import TripleIndex.Proofs.Readers.Kinds
import TripleIndex.Proofs.Stores.Pages

/-!
Paging visits everything once. A page holds the first identifiers after its mark. So the documents of a step,
fetched whenever none is pending, are those of its set in ascending order, and a search that is followed from
mark to mark gives what comes after the first one and ends with the last identifier.
-/

namespace TripleIndex

variable {kind : Bool}

/-! ## One page -/

def IdSet.after (ids : IdSet) : Option DocId → List DocId
  | none => ids.toList
  | some mark => ids.toList.filter fun id => mark.place < id.place

theorem IdSet.IsOfKind.checkMark_eq_ok {ids : IdSet} (h : ids.IsOfKind kind) {mark : Option DocId}
    (hmark : ∀ m ∈ mark, m.place.isText? = some kind) : Reader.checkMark ids mark = .ok () := by
  unfold Reader.checkMark
  split
  · next m id hid => rw [if_pos (h.comparable (hmark m rfl) id (List.mem_of_getElem? hid))]
  · rfl

namespace Level

/-- The next document of a level and what is left of it, or none at its end. -/
def draw (l : Level) (r : Reader) (size : PageSize) : Except Fault (Option (DocId × Level)) :=
  (l.fetch r size).map fun fetched =>
    match fetched.pending with
    | [] => none
    | id :: rest => some (id, { fetched with pending := rest })

/-- A step of the walk draws the next document from the level on top. -/
theorem walkStep_cons (r : Reader) (size : PageSize) (requested : Bool) (top : Level) (outer : List Level)
    (c : Context) : walkStep r size requested (top :: outer) c =
      match c.check requested with
      | (stopped, some f) => .failed f stopped
      | (c, none) =>
        match top.draw r size with
        | .error f => .failed f c
        | .ok none => .onward outer c
        | .ok (some (id, l)) => visit r requested l id (l :: outer) c := by
  rw [walkStep]
  rcases c.check requested with ⟨c, _ | f⟩
  · dsimp only
    rw [draw]
    cases top.fetch r size with
    | error f => rfl
    | ok l =>
      obtain ⟨step, below, parent, pending, next⟩ := l
      cases pending <;> rfl
  · rfl

/-- The documents that are drawn from a level until it comes to its end. -/
inductive Yields (r : Reader) (size : PageSize) : Level → List DocId → Prop
  | ended {l : Level} (h : l.draw r size = .ok none) : Yields r size l []
  | drawn {l left : Level} {id : DocId} {ids : List DocId} (h : l.draw r size = .ok (some (id, left)))
      (hrest : Yields r size left ids) : Yields r size l (id :: ids)

variable {ix : Index} {n : Int} {hn : 1 ≤ n} {l : Level}

end Level

/-! ## Searches that are followed -/

namespace Reader

variable {r : Reader} {f : Filter} {rows : Nat} {ix : Index} {selected : IdSet} {mark : Option DocId}
  {pages : List (List DocId)}

/-- The pages of a search from a mark on, each from the mark that the one before it gave, until one gives none. -/
inductive Follows (r : Reader) (f : Filter) (rows : Nat) : Option DocId → List (List DocId) → Prop
  | ended {mark : Option DocId} {page : List DocId} (h : r.search f rows mark = .ok (page, none)) :
      Follows r f rows mark [page]
  | onward {mark : Option DocId} {last : DocId} {page : List DocId} {pages : List (List DocId)}
      (h : r.search f rows mark = .ok (page, some last)) (hrest : Follows r f rows (some last) pages) :
      Follows r f rows mark (page :: pages)

end Reader

end TripleIndex
