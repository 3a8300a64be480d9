import TripleIndex.Proofs.Graphs.Searches
import TripleIndex.Proofs.Join.Loops
import TripleIndex.Proofs.Snapshots.Searches

/-!
What a search yields. Page after page it gives what one page with everything on it would give. So a triple is
yielded from a document that is selected, after all documents before it have been read without a fault.
-/

namespace TripleIndex

/-! ## One page -/

section Page

variable {r : Reader} {p t : Pattern} {ids : List DocId}

/-- The search comes past a document, whether it matches or not. -/
def ComesPast (r : Reader) (p : Pattern) (id : DocId) : Prop := ∃ found, matchingTriple r p id = .ok found

theorem findInPage_append (front back : List DocId) :
    findInPage r p (front ++ back) = (findInPage r p front).andThen fun _ => findInPage r p back := by
  induction front with
  | nil => rfl
  | cons id front ih =>
    rw [List.cons_append, findInPage, findInPage]
    cases matchingTriple r p id with
    | error e => rfl
    | ok found =>
      cases found with
      | none => exact ih
      | some t =>
        dsimp only
        rw [ih, Found.andThen_assoc]

theorem fault_findInPage : (findInPage r p ids).fault = none ↔ ∀ id ∈ ids, ComesPast r p id := by
  induction ids with
  | nil => exact iff_of_true rfl (by simp)
  | cons id ids ih =>
    rw [List.forall_mem_cons, findInPage, ComesPast]
    cases matchingTriple r p id with
    | error e => exact iff_of_false (by simp [Found.failed]) (by simp)
    | ok found =>
      rw [← ih, and_iff_right ⟨found, rfl⟩]
      cases found <;> rfl

theorem mem_triples_findInPage : t ∈ (findInPage r p ids).triples ↔ ∃ front id back, ids = front ++ id :: back ∧
    (∀ i ∈ front, ComesPast r p i) ∧ matchingTriple r p id = .ok (some t) := by
  induction ids with
  | nil =>
    refine iff_of_false List.not_mem_nil ?_
    rintro ⟨front, id, back, h, -⟩
    simp at h
  | cons id ids ih =>
    have hsplit : (∃ front id' back, id :: ids = front ++ id' :: back ∧ (∀ i ∈ front, ComesPast r p i) ∧
        matchingTriple r p id' = .ok (some t)) ↔
        matchingTriple r p id = .ok (some t) ∨ ComesPast r p id ∧ t ∈ (findInPage r p ids).triples := by
      rw [ih]
      constructor
      · rintro ⟨front, id', back, h, hfront, hid⟩
        cases front with
        | nil =>
          cases h
          exact .inl hid
        | cons i front =>
          cases h
          obtain ⟨hi, hfront⟩ := List.forall_mem_cons.1 hfront
          exact .inr ⟨hi, front, id', back, rfl, hfront, hid⟩
      · rintro (hid | ⟨hid, front, id', back, rfl, hfront, hid'⟩)
        · exact ⟨[], id, ids, rfl, by simp, hid⟩
        · exact ⟨id :: front, id', back, rfl, List.forall_mem_cons.2 ⟨hid, hfront⟩, hid'⟩
    rw [hsplit, findInPage, ComesPast]
    cases matchingTriple r p id with
    | error e => exact iff_of_false List.not_mem_nil (by simp)
    | ok found =>
      cases found with
      | none => simp
      | some u => simp [Found.andThen, eq_comm]

end Page

/-! ## Page after page -/

section Pages

variable {ix : Index} {f : Filter} {p : Pattern} {size : PageSize} {selected : IdSet} {rows : Int}

theorem Reader.passed_last {ids : IdSet} {last : DocId} (h : ids.toList.getLast?.map Scalar.place = some last.place) :
    Reader.passed ids (some last) = ids.toList.length := by
  obtain ⟨found, hfound, hplace⟩ := Option.map_eq_some_iff.1 h
  have hall : ids.toList.take ids.toList.length = ids.toList := List.take_length
  have hpassed : Reader.passed ids (some found) = (ids.toList.take ids.toList.length).length :=
    Reader.passed_getLast? (by rw [hall, hfound])
  rw [hall] at hpassed
  rw [← hpassed, Reader.passed, Reader.passed, hplace]

theorem Reader.checkMark_eq_ok (htext : ∀ q ∈ selected, ∃ name, q = .text name) {mark : Option DocId}
    (hmark : ∀ id ∈ mark, id ∈ selected.toList) : Reader.checkMark selected mark = .ok () := by
  have hid : ∀ id ∈ selected.toList, ∃ name, id = .text name := by
    intro id hid
    obtain ⟨name, hname⟩ := htext id.place (List.mem_map_of_mem hid)
    exact ⟨name, Scalar.eq_text_of_place hname⟩
  unfold Reader.checkMark
  split
  · next mark id hmiddle =>
    obtain ⟨name, rfl⟩ := hid mark (hmark mark rfl)
    obtain ⟨other, rfl⟩ := hid id (List.mem_of_getElem? hmiddle)
    exact if_pos rfl
  · rfl

/-- A page and what comes after the mark that it leaves are what comes after the mark before it. -/
theorem Reader.exists_nextMark (ids : IdSet) (mark : Option DocId) {rows : Nat} (hrows : 1 ≤ rows) :
    let page := Reader.pageFrom ids.toList (Reader.passed ids mark) rows
    ∃ later, Reader.nextMark ids page rows = .ok later ∧
      page ++ (later.elim [] fun last => ids.toList.drop (Reader.passed ids (some last))) =
        ids.toList.drop (Reader.passed ids mark) := by
  intro page
  have hpage : page ++ (if (page.length : Int) < rows then [] else ids.toList.drop (Reader.passed ids page.getLast?)) =
    ids.toList.drop (Reader.passed ids mark) := Reader.page_append_drop ids mark hrows
  have hlength : page.length ≤ rows := by
    have hcut : page = (ids.toList.take (Reader.passed ids mark + rows)).drop (Reader.passed ids mark) :=
      Reader.pageFrom_natCast ids.toList (Reader.passed ids mark) rows
    rw [hcut, List.length_drop, List.length_take]
    omega
  unfold Reader.nextMark
  by_cases hfull : (page.length : Int) = rows
  · rw [if_neg (by omega)] at hpage
    rw [if_pos hfull]
    cases hlast : page.getLast? with
    | none =>
      rw [List.getLast?_eq_none_iff.1 hlast, List.length_nil] at hfull
      omega
    | some last =>
      rw [hlast] at hpage
      by_cases hend : ids.toList.getLast?.map Scalar.place = some last.place
      · -- the last page ends with the last identifier, behind which there is nothing
        rw [Reader.passed_last hend, List.drop_length] at hpage
        exact ⟨none, congrArg Except.ok (if_pos hend), hpage⟩
      · exact ⟨some last, congrArg Except.ok (if_neg hend), hpage⟩
  · rw [if_pos (by omega)] at hpage
    exact ⟨none, if_neg hfull, hpage⟩

theorem exists_searchPage (heval : ix.evaluate f none = .ok selected) (hcount : size.count = .ok rows)
    (htext : ∀ q ∈ selected, ∃ name, q = .text name) {mark : Option DocId}
    (hmark : ∀ id ∈ mark, id ∈ selected.toList) : ∃ page later,
      searchPage (.opened ix) f size mark = .ok (page, later) ∧
      page ++ (later.elim [] fun last => selected.toList.drop (Reader.passed selected (some last))) =
        selected.toList.drop (Reader.passed selected mark) ∧
      ∀ last ∈ later, (∀ id ∈ some last, id ∈ selected.toList) ∧
        selected.size - Reader.passed selected (some last) < selected.size - Reader.passed selected mark := by
  have hrows : 1 ≤ rows := by
    cases size with
    | rows n positive => exact Except.ok.inj hcount ▸ positive
    | fraction => cases hcount
  obtain ⟨rows, rfl⟩ := Int.eq_ofNat_of_zero_le (Int.le_trans (by decide) hrows)
  have horder : Reader.checkOrder selected = .ok () :=
    Index.checkOrder_eq_ok true fun q hq => let ⟨_, hname⟩ := htext q hq; hname ▸ rfl
  obtain ⟨later, hnext, hpage⟩ := Reader.exists_nextMark selected mark (show 1 ≤ rows by omega)
  have hsearch : searchPage (.opened ix) f size mark = _ := searchPage_eq heval
  rw [hcount, horder, Reader.checkMark_eq_ok htext hmark] at hsearch
  dsimp only [Except.bind] at hsearch
  rw [hnext] at hsearch
  obtain ⟨-, hless⟩ := searchPage_eq_ok heval hsearch
  refine ⟨_, later, hsearch, hpage, fun last hlast => ⟨?_, hless last hlast⟩⟩
  rintro id ⟨⟩
  have hmem := List.mem_of_getLast? (nextMark_eq_ok (hlast ▸ hnext)).2
  rw [Reader.pageFrom_natCast] at hmem
  exact List.mem_of_mem_take (List.mem_of_mem_drop hmem)

/-- With fuel for all pages a search gives what one page of everything after the mark gives. -/
theorem findPages_eq (heval : ix.evaluate f none = .ok selected) (hcount : size.count = .ok rows)
    (htext : ∀ q ∈ selected, ∃ name, q = .text name) {fuel : Nat} {mark : Option DocId}
    (hmark : ∀ id ∈ mark, id ∈ selected.toList) (hfuel : selected.size - Reader.passed selected mark < fuel) :
    findPages (.opened ix) p f size fuel mark =
      findInPage (.opened ix) p (selected.toList.drop (Reader.passed selected mark)) := by
  -- what is left after the mark falls with every page
  induction fuel generalizing mark with
  | zero => exact absurd hfuel (Nat.not_lt_zero _)
  | succ fuel ih =>
    obtain ⟨page, later, hsearch, hpage, hlater⟩ := exists_searchPage heval hcount htext hmark
    rw [findPages, hsearch, ← hpage, findInPage_append]
    cases later with
    | none => rfl
    | some last =>
      obtain ⟨hlast, hless⟩ := hlater last rfl
      have hrest := ih hlast (by omega)
      dsimp only
      rw [hrest]
      rfl

end Pages

/-! ## Searches -/

namespace Store

variable {registry : Registry} {s : Store} {p t : Pattern} {g : Option Term} {selected : IdSet} {id : DocId}

/-- The search for a pattern selects the documents of a set, and pages can be cut out of it. -/
def GoesThrough (s : Store) (p : Pattern) (g : Option Term) (selected : IdSet) : Prop :=
  (∃ f, compile s.registry p (some (s.graph g)) = .ok f ∧ s.index.evaluate f none = .ok selected) ∧
    ∃ rows, s.pageSize.count = .ok rows

/-- The search for a pattern comes to a document and yields a triple from it. -/
def Yields (s : Store) (p : Pattern) (g : Option Term) (id : DocId) (t : Pattern) : Prop :=
  ∃ selected front back, s.GoesThrough p g selected ∧ selected.toList = front ++ id :: back ∧
    (∀ i ∈ front, ComesPast (.opened s.index) p i) ∧ matchingTriple (.opened s.index) p id = .ok (some t)

theorem Reachable.stored_of_goesThrough (hs : s.Reachable registry) (h : s.GoesThrough p g selected) {q : Place}
    (hq : q ∈ selected) : ∃ d, s.index.at? q = some d :=
  let ⟨⟨_, hcompile, heval⟩, _⟩ := h
  hs.index.stored_of_mem_evaluate hcompile heval hq

theorem Reachable.text_of_at? (hs : s.Reachable registry) {q : Place} {d : Document} (hd : s.index.at? q = some d) :
    ∃ name, q = .text name := by
  obtain ⟨filed, hfiled, -⟩ := Option.map_eq_some_iff.1 hd
  obtain ⟨_, _, _, _, -, -, hplace⟩ := hs.describes _ (Table.mem_of_lookup hfiled)
  exact ⟨_, hplace⟩

theorem Reachable.text_of_goesThrough (hs : s.Reachable registry) (h : s.GoesThrough p g selected) {q : Place}
    (hq : q ∈ selected) : ∃ name, q = .text name :=
  let ⟨_, hd⟩ := hs.stored_of_goesThrough h hq
  hs.text_of_at? hd

/-- A search gives what one page of everything that it selects gives. -/
theorem Reachable.find_eq (hs : s.Reachable registry) (h : s.GoesThrough p g selected) :
    s.find p g = findInPage (.opened s.index) p selected.toList := by
  have hsize : selected.size ≤ s.index.size := size_le_of_stored fun q hq => hs.stored_of_goesThrough h hq
  have htext := fun q hq => hs.text_of_goesThrough h (q := q) hq
  obtain ⟨⟨f, hcompile, heval⟩, rows, hcount⟩ := h
  rw [find, findIn, hcompile]
  exact findPages_eq heval hcount htext (by simp) (by omega)

theorem find_of_not_goesThrough (h : ¬ ∃ selected, s.GoesThrough p g selected) : ∃ e, s.find p g = .failed e := by
  rw [find, findIn]
  cases hcompile : compile s.registry p (some (s.graph g)) with
  | error e => exact ⟨e, rfl⟩
  | ok f =>
    dsimp only
    cases heval : s.index.evaluate f none with
    | error e =>
      have hsearch : searchPage (.opened s.index) f s.pageSize none = .error e := by
        show (s.index.evaluate f none >>= fun ids => _) = .error e
        rw [heval]
        rfl
      rw [findPages, hsearch]
      exact ⟨e, rfl⟩
    | ok selected =>
      cases hcount : s.pageSize.count with
      | error e =>
        rw [findPages, searchPage_eq heval, hcount]
        exact ⟨e, rfl⟩
      | ok rows => exact absurd ⟨selected, ⟨f, hcompile, heval⟩, rows, hcount⟩ h

theorem Reachable.mem_triples_find (hs : s.Reachable registry) :
    t ∈ (s.find p g).triples ↔ ∃ id, s.Yields p g id t := by
  constructor
  · intro ht
    by_cases h : ∃ selected, s.GoesThrough p g selected
    · obtain ⟨selected, h⟩ := h
      rw [hs.find_eq h] at ht
      obtain ⟨front, id, back, hsplit, hfront, hid⟩ := mem_triples_findInPage.1 ht
      exact ⟨id, selected, front, back, h, hsplit, hfront, hid⟩
    · obtain ⟨e, hfailed⟩ := find_of_not_goesThrough h
      rw [hfailed] at ht
      cases ht
  · rintro ⟨id, selected, front, back, h, hsplit, hfront, hid⟩
    rw [hs.find_eq h]
    exact mem_triples_findInPage.2 ⟨front, id, back, hsplit, hfront, hid⟩

end Store

end TripleIndex
