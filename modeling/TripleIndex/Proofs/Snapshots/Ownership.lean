import TripleIndex.Memory

/-!
Who can see what in memory. An index owns its places from some extent on if no two of its lists have a set
in common and everything before the extent is left to others. A change in place of an index that owns its
places is the change of the index that is read there, and everything before the extent stays as it is. A
copy is the same index, and it owns its places from the extent of the memory before it.
-/

namespace TripleIndex

/-- How many tables, lists and sets there are, which is where the next ones will be. -/
structure Extent where
  tables : Nat
  listings : Nat
  sets : Nat

structure Extent.Within (e e' : Extent) : Prop where
  tables : e.tables ≤ e'.tables
  listings : e.listings ≤ e'.listings
  sets : e.sets ≤ e'.sets

def Memory.extent (m : Memory) : Extent := ⟨m.tables.size, m.listings.size, m.sets.size⟩

def Layout.places (l : Layout) : List Nat := l.postings.map Prod.snd

/-- Two arrays are the same before a place. -/
def AgreeBefore {α : Type} (n : Nat) (xs ys : Array α) : Prop := ∀ i < n, ys[i]? = xs[i]?

section AgreeBefore

variable {α : Type} {n : Nat} {xs ys zs : Array α}

theorem AgreeBefore.refl (n : Nat) (xs : Array α) : AgreeBefore n xs xs := fun _ _ => rfl

theorem AgreeBefore.trans (h : AgreeBefore n xs ys) (h' : AgreeBefore n ys zs) : AgreeBefore n xs zs :=
  fun i hi => (h' i hi).trans (h i hi)

theorem agreeBefore_setIfInBounds {i : Nat} (h : n ≤ i) (x : α) : AgreeBefore n xs (xs.setIfInBounds i x) :=
  fun _ hj => Array.getElem?_setIfInBounds_ne (Nat.ne_of_gt (Nat.lt_of_lt_of_le hj h))

theorem agreeBefore_append (h : n ≤ xs.size) (ys : Array α) : AgreeBefore n xs (xs ++ ys) :=
  fun _ hi => Array.getElem?_append_left (Nat.lt_of_lt_of_le hi h)

theorem agreeBefore_push (h : n ≤ xs.size) (x : α) : AgreeBefore n xs (xs.push x) := by
  rw [← Array.append_singleton]
  exact agreeBefore_append h _

end AgreeBefore

namespace Memory

variable {m m' m'' : Memory} {l : Layout} {e e' : Extent} {schema : Schema} {a b : Nat}

/-! ## What is seen -/

/-- Everything of the index at `l` lies before an extent. -/
structure Holds (m : Memory) (e : Extent) (l : Layout) : Prop where
  documents : l.documents < e.tables
  listings : ∀ a ∈ l.places, a < e.listings
  sets : ∀ a ∈ l.places, ∀ s ∈ (m.listingAt a).sets, s < e.sets

/-- Nothing is changed before an extent. -/
structure Keeps (e : Extent) (m m' : Memory) : Prop where
  tables : AgreeBefore e.tables m.tables m'.tables
  listings : AgreeBefore e.listings m.listings m'.listings
  sets : AgreeBefore e.sets m.sets m'.sets

theorem Keeps.refl (e : Extent) (m : Memory) : m.Keeps e m := ⟨.refl _ _, .refl _ _, .refl _ _⟩

theorem Keeps.trans (h : m.Keeps e m') (h' : m'.Keeps e m'') : m.Keeps e m'' :=
  ⟨h.tables.trans h'.tables, h.listings.trans h'.listings, h.sets.trans h'.sets⟩

theorem Holds.mono (h : m.Holds e l) (he : e.Within e') : m.Holds e' l where
  documents := Nat.lt_of_lt_of_le h.documents he.tables
  listings a ha := Nat.lt_of_lt_of_le (h.listings a ha) he.listings
  sets a ha s hs := Nat.lt_of_lt_of_le (h.sets a ha s hs) he.sets

theorem Keeps.tableAt (h : m.Keeps e m') (ha : a < e.tables) : m'.tableAt a = m.tableAt a := by
  rw [Memory.tableAt, h.tables a ha, Memory.tableAt]

theorem Keeps.listingAt (h : m.Keeps e m') (ha : a < e.listings) : m'.listingAt a = m.listingAt a := by
  rw [Memory.listingAt, h.listings a ha, Memory.listingAt]

theorem Keeps.setAt (h : m.Keeps e m') (ha : a < e.sets) : m'.setAt a = m.setAt a := by
  rw [Memory.setAt, h.sets a ha, Memory.setAt]

theorem postingsAt_congr (hlisting : m'.listingAt b = m.listingAt a)
    (hsets : ∀ s ∈ (m.listingAt a).sets, m'.setAt s = m.setAt s) :
    m'.postingsAt b = m.postingsAt a := by
  rw [postingsAt, postingsAt, hlisting]
  congr 1
  exact Array.map_congr_left hsets

theorem read_congr {l' : Layout} (htable : m'.tableAt l'.documents = m.tableAt l.documents)
    (hpostings : l'.postings.map (fun (name, a) => (name, m'.postingsAt a)) =
      l.postings.map fun (name, a) => (name, m.postingsAt a)) :
    m'.read schema l' = m.read schema l := by
  rw [read, read, htable, hpostings]

theorem Keeps.holds (h : m.Keeps e m') (hl : m.Holds e l) : m'.Holds e l where
  documents := hl.documents
  listings := hl.listings
  sets a ha := by
    rw [h.listingAt (hl.listings a ha)]
    exact hl.sets a ha

theorem Keeps.postingsAt (h : m.Keeps e m') (hl : m.Holds e l) (ha : a ∈ l.places) :
    m'.postingsAt a = m.postingsAt a :=
  postingsAt_congr (h.listingAt (hl.listings a ha)) fun s hs => h.setAt (hl.sets a ha s hs)

/-- What lies before an extent reads the same as long as nothing is changed there. -/
theorem Keeps.read_eq (h : m.Keeps e m') (hl : m.Holds e l) (schema : Schema) :
    m'.read schema l = m.read schema l := by
  refine read_congr (h.tableAt hl.documents) (List.map_congr_left fun p hp => ?_)
  exact congrArg (Prod.mk p.1) (h.postingsAt hl (List.mem_map_of_mem hp))

/-! ## Ownership -/

/-- The index at `l` lies from an extent on, in places of which it uses none twice. -/
structure Owned (m : Memory) (e : Extent) (l : Layout) : Prop where
  within : e.Within m.extent
  held : m.Holds m.extent l
  documents : e.tables ≤ l.documents
  listings : ∀ a ∈ l.places, e.listings ≤ a
  sets : ∀ a ∈ l.places, ∀ s ∈ (m.listingAt a).sets, e.sets ≤ s
  places : l.places.Nodup
  distinct : ∀ a ∈ l.places, (m.listingAt a).sets.toList.Nodup
  apart : ∀ a ∈ l.places, ∀ b ∈ l.places, a ≠ b → ∀ s ∈ (m.listingAt a).sets, s ∉ (m.listingAt b).sets

/-- A change that leaves the index at `l` in its own places and everything before the extent alone. -/
structure Revises (e : Extent) (l : Layout) (m m' : Memory) : Prop where
  owned : m'.Owned e l
  keeps : m.Keeps e m'

theorem Owned.revises (h : m.Owned e l) : Revises e l m m := ⟨h, .refl e m⟩

theorem Revises.trans (h : Revises e l m m') (h' : Revises e l m' m'') : Revises e l m m'' :=
  ⟨h'.owned, h.keeps.trans h'.keeps⟩

/-! ## One table, one set, one list -/

theorem tableAt_putTable (ha : a < m.tables.size) (t : Table Place Filed) :
    (m.putTable a t).tableAt a = t := by
  rw [tableAt, putTable, Array.getElem?_setIfInBounds_self_of_lt ha, Option.getD_some]

theorem setAt_putSet (ha : a < m.sets.size) (ids : IdSet) : (m.putSet a ids).setAt a = ids := by
  rw [setAt, putSet, Array.getElem?_setIfInBounds_self_of_lt ha, Option.getD_some]

theorem setAt_putSet_of_ne (h : a ≠ b) (ids : IdSet) : (m.putSet a ids).setAt b = m.setAt b := by
  rw [setAt, putSet, Array.getElem?_setIfInBounds_ne h, setAt]

theorem listingAt_putListing (ha : a < m.listings.size) (listing : Listing) :
    (m.putListing a listing).listingAt a = listing := by
  rw [listingAt, putListing, Array.getElem?_setIfInBounds_self_of_lt ha, Option.getD_some]

theorem listingAt_putListing_of_ne (h : a ≠ b) (listing : Listing) :
    (m.putListing a listing).listingAt b = m.listingAt b := by
  rw [listingAt, putListing, Array.getElem?_setIfInBounds_ne h, listingAt]

theorem extent_putTable (m : Memory) (a : Nat) (t : Table Place Filed) :
    (m.putTable a t).extent = m.extent := by
  simp only [extent, putTable, Array.size_setIfInBounds]

theorem extent_putSet (m : Memory) (a : Nat) (ids : IdSet) : (m.putSet a ids).extent = m.extent := by
  simp only [extent, putSet, Array.size_setIfInBounds]

theorem extent_putListing (m : Memory) (a : Nat) (listing : Listing) :
    (m.putListing a listing).extent = m.extent := by
  simp only [extent, putListing, Array.size_setIfInBounds]

theorem Owned.revises_putTable (h : m.Owned e l) (t : Table Place Filed) :
    Revises e l m (m.putTable l.documents t) where
  owned := { h with
    within := (extent_putTable m l.documents t).symm ▸ h.within
    held := (extent_putTable m l.documents t).symm ▸ { h.held with } }
  keeps := ⟨agreeBefore_setIfInBounds h.documents t, .refl _ _, .refl _ _⟩

theorem Owned.read_putTable (h : m.Owned e l) (t : Table Place Filed) :
    (m.putTable l.documents t).read schema l = { m.read schema l with documents := t } := by
  rw [read, tableAt_putTable h.held.documents]
  rfl

theorem Owned.revises_putSet (h : m.Owned e l) {s : Nat} (hs : e.sets ≤ s) (ids : IdSet) :
    Revises e l m (m.putSet s ids) where
  owned := { h with
    within := (extent_putSet m s ids).symm ▸ h.within
    held := (extent_putSet m s ids).symm ▸ { h.held with } }
  keeps := ⟨.refl _ _, .refl _ _, agreeBefore_setIfInBounds hs ids⟩

theorem Owned.postingsAt_putSet (h : m.Owned e l) (ha : a ∈ l.places) {i s : Nat}
    (hs : (m.listingAt a).sets[i]? = some s) (ids : IdSet) {b : Nat} (hb : b ∈ l.places) :
    (m.putSet s ids).postingsAt b =
      if b = a then { m.postingsAt a with lists := (m.postingsAt a).lists.setIfInBounds i ids }
      else m.postingsAt b := by
  have hmem : s ∈ (m.listingAt a).sets := Array.mem_of_getElem? hs
  split
  · next heq =>
    subst heq
    have hlists : (m.listingAt b).sets.map (m.putSet s ids).setAt =
        ((m.listingAt b).sets.map m.setAt).setIfInBounds i ids := by
      apply Array.ext_getElem?
      have hi : i < (m.listingAt b).sets.size := (Array.getElem?_eq_some_iff.1 hs).1
      intro j
      rw [Array.getElem?_setIfInBounds, Array.getElem?_map, Array.getElem?_map]
      split
      · next hj =>
        subst hj
        rw [hs, Option.map_some, setAt_putSet (h.held.sets b hb s hmem)]
        simp [hi]
      · next hj =>
        cases hother : (m.listingAt b).sets[j]? with
        | none => rfl
        | some s' =>
          -- what stands at another place of the list is another set
          have hne : s ≠ s' := by
            rintro rfl
            have hsame : (m.listingAt b).sets.toList[i]? = (m.listingAt b).sets.toList[j]? := by
              rw [Array.getElem?_toList, Array.getElem?_toList, hs, hother]
            exact hj ((List.getElem?_inj hi (h.distinct b hb)).1 hsame)
          rw [Option.map_some, Option.map_some, setAt_putSet_of_ne hne]
    exact congrArg (Postings.mk _) hlists
  · next hne =>
    refine postingsAt_congr rfl fun s' hs' => setAt_putSet_of_ne ?_ ids
    rintro rfl
    exact h.apart b hb a ha hne _ hs' hmem

/-- The list at a place is replaced by one whose sets are its own or nobody's. -/
theorem Owned.revises_putListing (h : m.Owned e l) (ha : a ∈ l.places) {listing : Listing}
    (hdistinct : listing.sets.toList.Nodup)
    (hsets : ∀ s ∈ listing.sets, s ∈ (m.listingAt a).sets ∨
      e.sets ≤ s ∧ s < m.sets.size ∧ ∀ b ∈ l.places, s ∉ (m.listingAt b).sets) :
    Revises e l m (m.putListing a listing) := by
  have hat : (m.putListing a listing).listingAt a = listing :=
    listingAt_putListing (h.held.listings a ha) listing
  have hother : ∀ b, b ≠ a → (m.putListing a listing).listingAt b = m.listingAt b :=
    fun b hb => listingAt_putListing_of_ne hb.symm listing
  have hextent : (m.putListing a listing).extent = m.extent := extent_putListing ..
  -- a set that a list has gained is one that nobody had
  have hgained : ∀ b, ∀ s ∈ ((m.putListing a listing).listingAt b).sets, s ∈ (m.listingAt b).sets ∨
      b = a ∧ e.sets ≤ s ∧ s < m.sets.size ∧ ∀ c ∈ l.places, s ∉ (m.listingAt c).sets := by
    intro b s hs
    by_cases hba : b = a
    · rw [hba, hat] at hs
      rw [hba]
      exact (hsets s hs).imp_right fun hnew => ⟨rfl, hnew⟩
    · rw [hother b hba] at hs
      exact .inl hs
  refine ⟨⟨hextent ▸ h.within, ?_, h.documents, h.listings, ?_, h.places, ?_, ?_⟩, ?_⟩
  · rw [hextent]
    refine ⟨h.held.documents, h.held.listings, fun b hb s hs => ?_⟩
    rcases hgained b s hs with hs | ⟨-, -, hlt, -⟩
    · exact h.held.sets b hb s hs
    · exact hlt
  · intro b hb s hs
    rcases hgained b s hs with hs | ⟨-, hle, -⟩
    · exact h.sets b hb s hs
    · exact hle
  · intro b hb
    by_cases hba : b = a
    · rw [hba, hat]
      exact hdistinct
    · rw [hother b hba]
      exact h.distinct b hb
  · intro b hb c hc hne s hs hs'
    rcases hgained b s hs with hs | ⟨hba, -, -, hnew⟩
    · rcases hgained c s hs' with hs' | ⟨-, -, -, hnew⟩
      · exact h.apart b hb c hc hne s hs hs'
      · exact hnew b hb hs
    · rcases hgained c s hs' with hs' | ⟨hca, -⟩
      · exact hnew c hc hs'
      · exact hne (hba.trans hca.symm)
  · exact ⟨.refl _ _, agreeBefore_setIfInBounds (h.listings a ha) listing, .refl _ _⟩

theorem Owned.postingsAt_putListing (h : m.Owned e l) (ha : a ∈ l.places) (listing : Listing) (b : Nat) :
    (m.putListing a listing).postingsAt b =
      if b = a then ⟨listing.keys, listing.sets.map m.setAt⟩ else m.postingsAt b := by
  split
  · next hb =>
    rw [hb, postingsAt, listingAt_putListing (h.held.listings a ha)]
    rfl
  · next hb => exact postingsAt_congr (listingAt_putListing_of_ne (Ne.symm hb) listing) fun _ _ => rfl

theorem Owned.revises_pushSet (h : m.Owned e l) (ids : IdSet) : Revises e l m (m.pushSet ids) where
  owned := { h with
    within := { h.within with sets := Nat.le_trans h.within.sets (by simp [extent, pushSet]) }
    held := { h.held with
      sets := fun a ha s hs => Nat.lt_trans (h.held.sets a ha s hs) (by simp [extent, pushSet]) } }
  keeps := ⟨.refl _ _, .refl _ _, agreeBefore_push h.within.sets ids⟩

theorem setAt_pushSet (m : Memory) (ids : IdSet) : (m.pushSet ids).setAt m.sets.size = ids := by
  simp [setAt, pushSet]

theorem Owned.postingsAt_pushSet (h : m.Owned e l) (ids : IdSet) (ha : a ∈ l.places) :
    (m.pushSet ids).postingsAt a = m.postingsAt a := by
  refine postingsAt_congr rfl fun s hs => ?_
  have hlt : s < m.sets.size := h.held.sets a ha s hs
  rw [setAt, pushSet, Array.getElem?_push_lt hlt, setAt, Array.getElem?_eq_getElem hlt]

end Memory

end TripleIndex
