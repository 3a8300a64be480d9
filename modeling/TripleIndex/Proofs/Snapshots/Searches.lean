import TripleIndex.Finder

/-!
A search that reads as it goes gives what a search in one piece gives. What it has still to give is what is
left of its page and the pages after that, so each pull takes the first triple off that.
-/

namespace TripleIndex

namespace Found

theorem andThen_assoc (first : Found) (second third : Unit → Found) :
    (first.andThen second).andThen third = first.andThen fun u => (second u).andThen third := by
  obtain ⟨triples, fault⟩ := first
  cases fault with
  | some f => rfl
  | none =>
    unfold andThen
    cases hsecond : (second ()).fault <;> simp [hsecond]

def replies (found : Found) : Nat → List (Except Fault (Option Pattern))
  | 0 => []
  | n + 1 => found.next.1 :: found.next.2.replies n

theorem replies_none (n : Nat) : none.replies n = List.replicate n (.ok .none) := by
  induction n with
  | zero => rfl
  | succ n ih => exact congrArg (Except.ok .none :: ·) ih

theorem replies_failed (f : Fault) (n : Nat) :
    (failed f).replies (n + 1) = .error f :: List.replicate n (.ok .none) :=
  congrArg (Except.error f :: ·) (replies_none n)

end Found

namespace Finder

variable {r : Reader} {p : Pattern} {f : Filter} {size : PageSize}

def remaining (r : Reader) (s : Finder) : Found :=
  (findInPage r s.pattern s.page).andThen fun _ =>
    match s.later with
    | none => .none
    | some mark => findPages r s.pattern s.filter s.size s.pages mark

theorem remaining_begin (r : Reader) (p : Pattern) (f : Filter) (size : PageSize) (pages : Nat) :
    (begin p f size pages).remaining r = findPages r p f size pages none := rfl

theorem findInPage_eq (r : Reader) (p : Pattern) (ids : List DocId) :
    findInPage r p ids = match firstOfPage r p ids with
      | .error e => .failed e
      | .ok none => .none
      | .ok (some (t, rest)) => Found.andThen ⟨[t], none⟩ fun _ => findInPage r p rest := by
  induction ids with
  | nil => rfl
  | cons id ids ih =>
    rw [findInPage, firstOfPage]
    cases matchingTriple r p id with
    | error e => rfl
    | ok t =>
      cases t with
      | none => exact ih
      | some t => rfl

/-- What a pull gives and what is left after it, as the search has found it. -/
def given (r : Reader) : Except Fault (Option (Pattern × Finder)) → Found
  | .error e => .failed e
  | .ok none => .none
  | .ok (some (t, s)) => Found.andThen ⟨[t], none⟩ fun _ => s.remaining r

/-- A search goes on to the first triple that is left, over as many pages as it takes. -/
theorem remaining_eq_given (r : Reader) (p : Pattern) (f : Filter) (size : PageSize) (page : List DocId)
    (later : Option (Option DocId)) (pages : Nat) :
    remaining r ⟨p, f, size, page, later, pages⟩ = given r (advance r p f size page later pages) := by
  -- along the search: from page to page as long as nothing is found
  fun_induction advance r p f size page later pages with
  | case1 pages page later e hpage =>
    rw [remaining, findInPage_eq, hpage]
    rfl
  | case2 pages page later t rest hpage =>
    rw [remaining, findInPage_eq, hpage, Found.andThen_assoc]
    rfl
  | case3 page hpage pages mark e hsearch =>
    rw [remaining, findInPage_eq, hpage]
    show findPages r p f size (pages + 1) mark = .failed e
    rw [findPages, hsearch]
  | case4 page hpage pages mark ids next hsearch ih =>
    rw [← ih, remaining, findInPage_eq, hpage]
    show findPages r p f size (pages + 1) mark = _
    rw [findPages, hsearch]
    cases next <;> rfl
  | case5 pages page later hpage hlast =>
    rw [remaining, findInPage_eq, hpage]
    cases later with
    | none => rfl
    | some mark =>
      cases pages with
      | zero => rfl
      | succ pages => exact absurd rfl (hlast pages mark rfl)

theorem pull_eq (s : Finder) (r : Reader) :
    (s.pull r).1 = (s.remaining r).next.1 ∧
      (s.pull r).2.1.remaining (s.pull r).2.2 = (s.remaining r).next.2 ∧
      ((s.pull r).2.2 = r ∨ (s.pull r).2.2 = .closed) := by
  have hremaining := remaining_eq_given r s.pattern s.filter s.size s.page s.later s.pages
  rw [hremaining, pull]
  cases advance r s.pattern s.filter s.size s.page s.later s.pages with
  | error e => exact ⟨rfl, rfl, .inr rfl⟩
  | ok outcome =>
    cases outcome with
    | none => exact ⟨rfl, rfl, .inr rfl⟩
    | some found => exact ⟨rfl, rfl, .inl rfl⟩

end Finder

end TripleIndex
