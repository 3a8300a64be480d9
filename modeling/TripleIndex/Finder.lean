import TripleIndex.Find

/-!
Searches that read as they go. A search under way has what is left of one page and the mark that the next
page begins after, and each pull reads no further than to the next triple. At its end, and after a fault, it
closes its reader.
-/

namespace TripleIndex

/-- A search under way. There is no later page without a mark, and `pages` bounds how many there are. -/
structure Finder where
  pattern : Pattern
  filter : Filter
  size : PageSize
  page : List DocId
  later : Option (Option DocId)
  pages : Nat

namespace Finder

/-- A search that has read nothing yet. -/
def begin (p : Pattern) (f : Filter) (size : PageSize) (pages : Nat) : Finder :=
  ⟨p, f, size, [], some none, pages⟩

def ended (s : Finder) : Finder := { s with page := [], later := none }

/-- The first triple of a page, and what is left of the page after it. -/
def firstOfPage (r : Reader) (p : Pattern) : List DocId → Except Fault (Option (Pattern × List DocId))
  | [] => .ok none
  | id :: ids =>
    match matchingTriple r p id with
    | .error f => .error f
    | .ok none => firstOfPage r p ids
    | .ok (some t) => .ok (some (t, ids))

/-- The next triple, on this page or a later one, and the search after it. -/
def advance (r : Reader) (p : Pattern) (f : Filter) (size : PageSize) (page : List DocId)
    (later : Option (Option DocId)) (pages : Nat) : Except Fault (Option (Pattern × Finder)) :=
  match firstOfPage r p page with
  | .error e => .error e
  | .ok (some (t, rest)) => .ok (some (t, ⟨p, f, size, rest, later, pages⟩))
  | .ok none =>
    match pages, later with
    | pages + 1, some mark =>
      match searchPage r f size mark with
      | .error e => .error e
      | .ok (ids, next) => advance r p f size ids (next.map some) pages
    | _, _ => .ok none

def pull (s : Finder) (r : Reader) : Except Fault (Option Pattern) × Finder × Reader :=
  match advance r s.pattern s.filter s.size s.page s.later s.pages with
  | .ok (some (t, rest)) => (.ok (some t), rest, r)
  | .ok none => (.ok none, s.ended, .closed)
  | .error e => (.error e, s.ended, .closed)

end Finder

end TripleIndex
