import TripleIndex.DocId

/-!
Sets of document identifiers. A set is a list whose places ascend strictly, so it has one identifier at
most at each place, and the order of the list is the order of every page. What a set holds are places:
sets that hold the same places are the same, even if an identifier is written in another way. An identifier
whose place is taken is not entered again, so the one that came first is kept.
-/

namespace TripleIndex

def places (ids : List DocId) : List Place := ids.map Scalar.place

def Ascending (ids : List DocId) : Prop := ids.Pairwise fun a b => a.place < b.place

theorem Ascending.tail {id : DocId} {ids : List DocId} (h : Ascending (id :: ids)) :
    Ascending ids := (List.pairwise_cons.1 h).2

theorem Ascending.lt_of_mem {id : DocId} {p : Place} {ids : List DocId} (h : Ascending (id :: ids))
    (hp : p ∈ places ids) : id.place < p := by
  obtain ⟨x, hx, rfl⟩ := List.mem_map.1 hp
  exact (List.pairwise_cons.1 h).1 x hx

theorem Ascending.cons {id : DocId} {ids : List DocId} (hlt : ∀ p ∈ places ids, id.place < p)
    (h : Ascending ids) : Ascending (id :: ids) :=
  List.pairwise_cons.2 ⟨fun x hx => hlt x.place (List.mem_map_of_mem hx), h⟩

theorem Ascending.sublist {s t : List DocId} (h : Ascending t) (hs : s.Sublist t) :
    Ascending s := List.Pairwise.sublist hs h

/-- No identifier comes after the last one. -/
theorem Ascending.not_last_lt {ids : List DocId} {last id : DocId} (h : Ascending ids)
    (hlast : ids.getLast? = some last) (hid : id ∈ ids) : ¬ last.place < id.place := by
  obtain ⟨front, rfl⟩ := List.getLast?_eq_some_iff.1 hlast
  rcases List.mem_append.1 hid with hid | hid
  · have hlt := (List.pairwise_append.1 h).2.2 id hid last List.mem_cons_self
    exact fun h => Place.lt_irrefl _ (Place.lt_trans h hlt)
  · rw [List.mem_singleton.1 hid]
    exact Place.lt_irrefl _

theorem mem_places_cons (p : Place) (x : DocId) (xs : List DocId) :
    p ∈ places (x :: xs) ↔ p = x.place ∨ p ∈ places xs := List.mem_cons

/-- Ascending lists with the same places are the same but for the way in which identifiers are
written. -/
theorem Ascending.places_ext {s t : List DocId} (hs : Ascending s) (ht : Ascending t)
    (h : ∀ p, p ∈ places s ↔ p ∈ places t) : places s = places t := by
  induction s generalizing t with
  | nil =>
    cases t with
    | nil => rfl
    | cons y ys => exact absurd ((h y.place).2 List.mem_cons_self) List.not_mem_nil
  | cons x xs ih =>
    cases t with
    | nil => exact absurd ((h x.place).1 List.mem_cons_self) List.not_mem_nil
    | cons y ys =>
      have hxy : x.place = y.place := by
        rcases (mem_places_cons ..).1 ((h x.place).1 List.mem_cons_self) with hx | hx
        · exact hx
        · rcases (mem_places_cons ..).1 ((h y.place).2 List.mem_cons_self) with hy | hy
          · exact hy.symm
          · exact absurd (Place.lt_trans (ht.lt_of_mem hx) (hs.lt_of_mem hy)) (Place.lt_irrefl _)
      show x.place :: places xs = y.place :: places ys
      rw [hxy]
      congr 1
      refine ih hs.tail ht.tail fun p => ?_
      constructor
      · intro hp
        rcases (mem_places_cons ..).1 ((h p).1 (List.mem_cons_of_mem _ hp)) with rfl | hp'
        · exact absurd (hxy ▸ hs.lt_of_mem hp) (Place.lt_irrefl _)
        · exact hp'
      · intro hp
        rcases (mem_places_cons ..).1 ((h p).2 (List.mem_cons_of_mem _ hp)) with rfl | hp'
        · exact absurd (hxy ▸ ht.lt_of_mem hp) (Place.lt_irrefl _)
        · exact hp'

/-- Put an identifier in its place unless the place is taken. -/
def insertAscending (id : DocId) : List DocId → List DocId
  | [] => [id]
  | x :: xs =>
    if id.precedes x then id :: x :: xs
    else if x.precedes id then x :: insertAscending id xs
    else x :: xs

theorem mem_insertAscending (id : DocId) (p : Place) (ids : List DocId) :
    p ∈ places (insertAscending id ids) ↔ p = id.place ∨ p ∈ places ids := by
  induction ids with
  | nil => simp [insertAscending, places]
  | cons y ys ih =>
    unfold insertAscending
    split
    · exact mem_places_cons ..
    · split
      · rw [mem_places_cons, ih, mem_places_cons]
        constructor
        · rintro (h | h | h) <;> simp [h]
        · rintro (h | h | h) <;> simp [h]
      · next h₁ h₂ =>
        rw [Scalar.precedes_iff] at h₁ h₂
        rw [mem_places_cons, Place.eq_of_not_lt h₁ h₂]
        simp

theorem ascending_insertAscending (id : DocId) {ids : List DocId} (h : Ascending ids) :
    Ascending (insertAscending id ids) := by
  induction ids with
  | nil => exact List.pairwise_singleton _ _
  | cons y ys ih =>
    unfold insertAscending
    split
    · next hid =>
      rw [Scalar.precedes_iff] at hid
      refine .cons (fun p hp => ?_) h
      rcases (mem_places_cons ..).1 hp with rfl | hp
      · exact hid
      · exact Place.lt_trans hid (h.lt_of_mem hp)
    · split
      · next hyid =>
        rw [Scalar.precedes_iff] at hyid
        refine .cons (fun p hp => ?_) (ih h.tail)
        rcases (mem_insertAscending id p ys).1 hp with rfl | hp
        · exact hyid
        · exact h.lt_of_mem hp
      · exact h

/-- The identifiers of the first of two ascending lists whose places the second one has too, found in
one pass over both. -/
def meet : List DocId → List DocId → List DocId
  | [], _ => []
  | x :: xs, ys =>
    match ys.dropWhile (·.precedes x) with
    | [] => []
    | y :: rest => if y.sharesPlace x then x :: meet xs rest else meet xs (y :: rest)

theorem meet_sublist (xs ys : List DocId) : (meet xs ys).Sublist xs := by
  induction xs generalizing ys with
  | nil => exact List.Sublist.refl _
  | cons x xs ih =>
    unfold meet
    split
    · exact List.nil_sublist _
    · split
      · exact List.Sublist.cons_cons x (ih _)
      · exact (ih _).cons x

/-- Nothing that is at least at the place of `x` is dropped with the identifiers before `x`. -/
theorem mem_dropWhile_precedes {p : Place} {x : DocId} {ys : List DocId} (h : Ascending ys) :
    p ∈ places (ys.dropWhile (·.precedes x)) ↔ p ∈ places ys ∧ ¬ p < x.place := by
  induction ys with
  | nil => simp [places]
  | cons y ys ih =>
    rw [List.dropWhile_cons]
    split
    · next hy =>
      rw [ih h.tail, mem_places_cons]
      constructor
      · rintro ⟨hp, hq⟩
        exact ⟨.inr hp, hq⟩
      · rintro ⟨rfl | hp, hq⟩
        · exact absurd ((Scalar.precedes_iff ..).1 hy) hq
        · exact ⟨hp, hq⟩
    · next hy =>
      refine ⟨fun hp => ⟨hp, fun hpq => ?_⟩, fun hp => hp.1⟩
      have hyq : ¬ y.place < x.place := fun hlt => hy ((Scalar.precedes_iff ..).2 hlt)
      rcases (mem_places_cons ..).1 hp with rfl | hp
      · exact hyq hpq
      · exact hyq (Place.lt_trans (h.lt_of_mem hp) hpq)

theorem ascending_dropWhile {ys : List DocId} (h : Ascending ys) (f : DocId → Bool) :
    Ascending (ys.dropWhile f) := h.sublist (List.dropWhile_sublist f)

theorem mem_meet {xs ys : List DocId} (hx : Ascending xs) (hy : Ascending ys) (p : Place) :
    p ∈ places (meet xs ys) ↔ p ∈ places xs ∧ p ∈ places ys := by
  induction xs generalizing ys with
  | nil => simp [meet, places]
  | cons x xs ih =>
    have hdrop := ascending_dropWhile hy (·.precedes x)
    have hmem : ∀ q, q ∈ places (ys.dropWhile (·.precedes x)) ↔ q ∈ places ys ∧ ¬ q < x.place :=
      fun q => mem_dropWhile_precedes hy
    have later : p ∈ places xs →
        (p ∈ places ys ↔ p ∈ places (ys.dropWhile (·.precedes x))) := by
      intro hp
      have hnot : ¬ p < x.place := fun hlt =>
        Place.lt_irrefl _ (Place.lt_trans (hx.lt_of_mem hp) hlt)
      rw [hmem p]
      exact ⟨fun h => ⟨h, hnot⟩, fun h => h.1⟩
    have here : x.place ∈ places ys ↔ x.place ∈ places (ys.dropWhile (·.precedes x)) := by
      rw [hmem x.place]
      exact ⟨fun h => ⟨h, Place.lt_irrefl _⟩, fun h => h.1⟩
    unfold meet
    split
    · next hnil =>
      rw [hnil] at later here
      constructor
      · intro h; exact absurd h List.not_mem_nil
      · rintro ⟨hp, hpy⟩
        rcases (mem_places_cons ..).1 hp with rfl | hp
        · exact absurd (here.1 hpy) List.not_mem_nil
        · exact absurd ((later hp).1 hpy) List.not_mem_nil
    · next y rest hcons =>
      rw [hcons] at later here hdrop
      split
      · next hyx =>
        rw [Scalar.sharesPlace_iff] at hyx
        rw [mem_places_cons, mem_places_cons, ih hx.tail hdrop.tail]
        constructor
        · rintro (rfl | ⟨hp, hpr⟩)
          · exact ⟨.inl rfl, here.2 (hyx ▸ List.mem_cons_self)⟩
          · exact ⟨.inr hp, (later hp).2 (List.mem_cons_of_mem _ hpr)⟩
        · rintro ⟨hp, hpy⟩
          rcases hp with rfl | hp
          · exact .inl rfl
          · refine .inr ⟨hp, ?_⟩
            rcases (mem_places_cons ..).1 ((later hp).1 hpy) with rfl | hpr
            · exact absurd (hyx ▸ hx.lt_of_mem hp) (Place.lt_irrefl _)
            · exact hpr
      · next hyx =>
        rw [Scalar.sharesPlace_iff] at hyx
        rw [ih hx.tail hdrop]
        constructor
        · rintro ⟨hp, hpr⟩
          exact ⟨List.mem_cons_of_mem _ hp, (later hp).2 hpr⟩
        · rintro ⟨hpx, hpy⟩
          rcases (mem_places_cons ..).1 hpx with rfl | hp
          · rcases (mem_places_cons ..).1 (here.1 hpy) with heq | hpr
            · exact absurd heq.symm hyx
            · have hnot := ((hmem y.place).1 (hcons ▸ List.mem_cons_self)).2
              exact absurd (hdrop.lt_of_mem hpr) hnot
          · exact ⟨hp, (later hp).1 hpy⟩

/-- A set of identifiers. -/
structure IdSet where
  toList : List DocId
  ascending : Ascending toList
  deriving DecidableEq

instance : Repr IdSet := ⟨fun s _ => repr s.toList⟩

namespace IdSet

instance : Membership Place IdSet := ⟨fun s p => p ∈ places s.toList⟩

def size (s : IdSet) : Nat := s.toList.length

def isEmpty (s : IdSet) : Bool := s.toList.isEmpty

def contains (s : IdSet) (id : DocId) : Bool := s.toList.any (·.sharesPlace id)

def same (s t : IdSet) : Bool := places s.toList == places t.toList

def empty : IdSet := ⟨[], List.Pairwise.nil⟩

def insert (s : IdSet) (id : DocId) : IdSet :=
  ⟨insertAscending id s.toList, ascending_insertAscending id s.ascending⟩

/-- Add identifiers one by one, in any order and any number of times. -/
def insertAll (s : IdSet) (ids : List DocId) : IdSet := ids.foldl insert s

def ofList (ids : List DocId) : IdSet := empty.insertAll ids

def union (s t : IdSet) : IdSet := s.insertAll t.toList

/-- The members of the smaller set, or of the second one of two equally large ones, that the other set
has too. -/
def inter (s t : IdSet) : IdSet :=
  if s.size < t.size then
    ⟨meet s.toList t.toList, s.ascending.sublist (meet_sublist s.toList t.toList)⟩
  else ⟨meet t.toList s.toList, t.ascending.sublist (meet_sublist t.toList s.toList)⟩

def erase (s : IdSet) (id : DocId) : IdSet :=
  ⟨s.toList.filter fun x => !x.sharesPlace id, s.ascending.sublist List.filter_sublist⟩

/-- The short form of a set, which tells only its size. -/
def text (s : IdSet) : String := "DocSet(cardinality=" ++ toString s.size ++ ")"

theorem mem_toList (p : Place) (s : IdSet) : p ∈ places s.toList ↔ p ∈ s := Iff.rfl

/-- Sets that hold the same places list the same places. -/
theorem places_ext {s t : IdSet} (h : ∀ p, p ∈ s ↔ p ∈ t) : places s.toList = places t.toList :=
  s.ascending.places_ext t.ascending h

theorem same_iff (s t : IdSet) : s.same t = true ↔ ∀ p, p ∈ s ↔ p ∈ t := by
  refine ⟨fun h p => ?_, fun h => beq_iff_eq.2 (places_ext h)⟩
  show p ∈ places s.toList ↔ p ∈ places t.toList
  rw [show places s.toList = places t.toList from beq_iff_eq.1 h]

theorem not_mem_empty (p : Place) : p ∉ empty := List.not_mem_nil

theorem mem_insert (id : DocId) (p : Place) (s : IdSet) : p ∈ s.insert id ↔ p = id.place ∨ p ∈ s :=
  mem_insertAscending id p s.toList

theorem mem_insertAll (p : Place) (s : IdSet) (ids : List DocId) :
    p ∈ s.insertAll ids ↔ p ∈ s ∨ p ∈ places ids := by
  induction ids generalizing s with
  | nil => simp [insertAll, places]
  | cons id ids ih =>
    rw [insertAll, List.foldl_cons, ← insertAll, ih, mem_insert, mem_places_cons]
    constructor
    · rintro ((h | h) | h) <;> simp [h]
    · rintro (h | h | h) <;> simp [h]

theorem mem_ofList (p : Place) (ids : List DocId) : p ∈ ofList ids ↔ p ∈ places ids := by
  rw [ofList, mem_insertAll]
  exact ⟨fun h => h.resolve_left (not_mem_empty p), .inr⟩

theorem mem_union (p : Place) (s t : IdSet) : p ∈ s.union t ↔ p ∈ s ∨ p ∈ t :=
  mem_insertAll p s t.toList

theorem mem_inter (p : Place) (s t : IdSet) : p ∈ s.inter t ↔ p ∈ s ∧ p ∈ t := by
  unfold inter
  split
  · exact mem_meet s.ascending t.ascending p
  · exact (mem_meet t.ascending s.ascending p).trans and_comm

theorem mem_erase (p : Place) (id : DocId) (s : IdSet) : p ∈ s.erase id ↔ p ∈ s ∧ p ≠ id.place := by
  show p ∈ places (s.toList.filter fun x => !x.sharesPlace id) ↔ p ∈ places s.toList ∧ p ≠ id.place
  simp only [places, List.mem_map, List.mem_filter, Bool.not_eq_true', Bool.eq_false_iff, ne_eq,
    Scalar.sharesPlace_iff]
  constructor
  · rintro ⟨x, ⟨hx, hne⟩, rfl⟩
    exact ⟨⟨x, hx, rfl⟩, hne⟩
  · rintro ⟨⟨x, hx, rfl⟩, hne⟩
    exact ⟨x, ⟨hx, hne⟩, rfl⟩

theorem contains_iff (id : DocId) (s : IdSet) : s.contains id = true ↔ id.place ∈ s := by
  show s.toList.any (·.sharesPlace id) = true ↔ id.place ∈ places s.toList
  simp only [List.any_eq_true, Scalar.sharesPlace_iff, places, List.mem_map]

theorem isEmpty_iff (s : IdSet) : s.isEmpty = true ↔ s = empty := by
  obtain ⟨ids, h⟩ := s
  cases ids with
  | nil => exact ⟨fun _ => rfl, fun _ => rfl⟩
  | cons id ids =>
    refine ⟨fun h => by simp [isEmpty] at h, fun h => ?_⟩
    exact absurd (congrArg IdSet.toList h) (by simp [empty])

/-- An intersection has at most as many members as either set. -/
theorem size_inter_le (s t : IdSet) : (s.inter t).size ≤ s.size ∧ (s.inter t).size ≤ t.size := by
  unfold inter
  split
  · next h =>
    have hle : (meet s.toList t.toList).length ≤ s.size := (meet_sublist s.toList t.toList).length_le
    exact ⟨hle, Nat.le_trans hle (Nat.le_of_lt h)⟩
  · next h =>
    have hle : (meet t.toList s.toList).length ≤ t.size := (meet_sublist t.toList s.toList).length_le
    exact ⟨Nat.le_trans hle (Nat.le_of_not_lt h), hle⟩

end IdSet

end TripleIndex
