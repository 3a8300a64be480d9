import Mathlib.Data.List.InsertIdx
import Mathlib.Data.List.Nodup
import TripleIndex.Proofs.Snapshots.Ownership

/-!
Changes in place. What is entered in a posting list, or removed from it, is written into one set or one list
of an index that owns its places, so the index that is read there afterwards is the changed one, and whatever
lies before its extent is as it was. This carries over from one value to whole documents, and from those to
writes and removals.
-/

namespace TripleIndex

section Arrays

variable {α β : Type}

theorem map_insertIdxIfInBounds (f : α → β) (xs : Array α) (i : Nat) (x : α) :
    (xs.insertIdxIfInBounds i x).map f = (xs.map f).insertIdxIfInBounds i (f x) := by
  obtain ⟨xs⟩ := xs
  simp [List.map_insertIdx]

theorem map_eraseIdxIfInBounds (f : α → β) (xs : Array α) (i : Nat) :
    (xs.eraseIdxIfInBounds i).map f = (xs.map f).eraseIdxIfInBounds i := by
  obtain ⟨xs⟩ := xs
  simp [List.eraseIdx_map]

theorem toList_insertIdxIfInBounds (xs : Array α) (i : Nat) (x : α) :
    (xs.insertIdxIfInBounds i x).toList = xs.toList.insertIdx i x := by
  obtain ⟨xs⟩ := xs
  simp

theorem mem_of_mem_insertIdxIfInBounds {xs : Array α} {i : Nat} {x y : α}
    (h : y ∈ xs.insertIdxIfInBounds i x) : y = x ∨ y ∈ xs := by
  rw [← Array.mem_toList_iff, toList_insertIdxIfInBounds] at h
  rw [← Array.mem_toList_iff]
  exact List.eq_or_mem_of_mem_insertIdx h

theorem mem_of_mem_eraseIdxIfInBounds {xs : Array α} {i : Nat} {y : α}
    (h : y ∈ xs.eraseIdxIfInBounds i) : y ∈ xs := by
  rw [← Array.mem_toList_iff, Array.toList_eraseIdxIfInBounds] at h
  exact Array.mem_toList_iff.1 (List.mem_of_mem_eraseIdx h)

theorem eraseIdxIfInBounds_setIfInBounds (xs : Array α) (i : Nat) (x : α) :
    (xs.setIfInBounds i x).eraseIdxIfInBounds i = xs.eraseIdxIfInBounds i := by
  obtain ⟨xs⟩ := xs
  simp [List.eraseIdx_set_eq]

theorem nodup_insertIdx {xs : List α} {i : Nat} {x : α} (h : xs.Nodup) (hx : x ∉ xs) :
    (xs.insertIdx i x).Nodup := by
  rcases Nat.lt_or_ge xs.length i with hi | hi
  · rwa [List.insertIdx_of_length_lt hi]
  · exact (List.perm_insertIdx x xs hi).nodup_iff.2 (List.nodup_cons.2 ⟨hx, h⟩)

end Arrays

namespace Memory

variable {m : Memory} {l : Layout} {e : Extent} {schema : Schema} {a b : Nat}

/-! ## One list -/

/-- A change in place does to a list what a function does. -/
structure Performs (change : Memory → Nat → Memory) (f : Postings Scalar → Postings Scalar) : Prop where
  tables : ∀ m a, (change m a).tables = m.tables
  revises : ∀ {m e l a}, m.Owned e l → a ∈ l.places → Revises e l m (change m a)
  postingsAt : ∀ {m e l a b}, m.Owned e l → a ∈ l.places → b ∈ l.places →
    (change m a).postingsAt b = if b = a then f (m.postingsAt a) else m.postingsAt b

theorem listAt_postingsAt (m : Memory) (a i : Nat) :
    (m.postingsAt a).listAt i = (((m.listingAt a).sets[i]?).map m.setAt).getD .empty := by
  rw [Postings.listAt, postingsAt, Array.getElem?_map]

theorem find?_postingsAt (m : Memory) (a : Nat) (k : Scalar) :
    (m.postingsAt a).find? k = (m.listingAt a).find? k := rfl

section Adding

variable {i s : Nat} {k : Scalar} {id : DocId}

theorem addAt_of_set (hfind : (m.listingAt a).find? k = some i)
    (hs : (m.listingAt a).sets[i]? = some s) :
    m.addAt a k id = m.putSet s ((m.setAt s).insert id) := by
  simp only [addAt, hfind, hs]

theorem addAt_of_no_set (hfind : (m.listingAt a).find? k = some i)
    (hs : (m.listingAt a).sets[i]? = none) : m.addAt a k id = m := by
  simp only [addAt, hfind, hs]

/-- The list at a place with a new key, whose set is the next one. -/
def withKey (m : Memory) (a : Nat) (k : Scalar) : Listing :=
  ⟨(m.listingAt a).keys.insertIdxIfInBounds ((m.listingAt a).lowerBound k) k,
    (m.listingAt a).sets.insertIdxIfInBounds
      (min ((m.listingAt a).lowerBound k) (m.listingAt a).sets.size) m.sets.size⟩

theorem addAt_of_no_key (hfind : (m.listingAt a).find? k = none) :
    m.addAt a k id = (m.pushSet (.ofList [id])).putListing a (m.withKey a k) := by
  simp only [addAt, hfind, withKey]

theorem Owned.nodup_withKey (h : m.Owned e l) (ha : a ∈ l.places) (k : Scalar) :
    (m.withKey a k).sets.toList.Nodup := by
  rw [withKey, toList_insertIdxIfInBounds]
  refine nodup_insertIdx (h.distinct a ha) fun hs => ?_
  exact Nat.lt_irrefl _ (h.held.sets a ha _ (Array.mem_toList_iff.1 hs))

theorem Owned.revises_withKey (h : m.Owned e l) (ha : a ∈ l.places) (k : Scalar) (id : DocId) :
    Revises e l m ((m.pushSet (.ofList [id])).putListing a (m.withKey a k)) := by
  have hpush := h.revises_pushSet (.ofList [id])
  refine hpush.trans (hpush.owned.revises_putListing ha (h.nodup_withKey ha k) fun s hs => ?_)
  rcases mem_of_mem_insertIdxIfInBounds hs with rfl | hs
  · have hnew : ∀ b ∈ l.places, m.sets.size ∉ (m.listingAt b).sets :=
      fun b hb hs => Nat.lt_irrefl _ (h.held.sets b hb _ hs)
    exact .inr ⟨h.within.sets, by simp [pushSet], hnew⟩
  · exact .inl hs

theorem Owned.postingsAt_withKey (h : m.Owned e l) (ha : a ∈ l.places)
    (hfind : (m.listingAt a).find? k = none) :
    Postings.mk (m.withKey a k).keys
      ((m.withKey a k).sets.map (m.pushSet (.ofList [id])).setAt) =
        (m.postingsAt a).add k id := by
  have hold : (m.listingAt a).sets.map (m.pushSet (.ofList [id])).setAt =
      (m.listingAt a).sets.map m.setAt :=
    congrArg Postings.lists (h.postingsAt_pushSet (.ofList [id]) ha)
  rw [Postings.add, find?_postingsAt, hfind, withKey, map_insertIdxIfInBounds, setAt_pushSet, hold]
  simp only [Postings.enterList, Postings.enterKey, postingsAt, Array.size_map]
  rfl

end Adding

theorem performs_addAt (k : Scalar) (id : DocId) :
    Performs (fun m a => m.addAt a k id) fun p => p.add k id where
  tables m a := by
    cases hfind : (m.listingAt a).find? k with
    | none => rw [addAt_of_no_key hfind]; rfl
    | some i =>
      cases hs : (m.listingAt a).sets[i]? with
      | none => rw [addAt_of_no_set hfind hs]
      | some s => rw [addAt_of_set hfind hs]; rfl
  revises {m e l a} h ha := by
    cases hfind : (m.listingAt a).find? k with
    | none =>
      rw [addAt_of_no_key hfind]
      exact h.revises_withKey ha k id
    | some i =>
      cases hs : (m.listingAt a).sets[i]? with
      | none =>
        rw [addAt_of_no_set hfind hs]
        exact h.revises
      | some s =>
        rw [addAt_of_set hfind hs]
        exact h.revises_putSet (h.sets a ha s (Array.mem_of_getElem? hs)) _
  postingsAt {m e l a b} h ha hb := by
    cases hfind : (m.listingAt a).find? k with
    | none =>
      rw [addAt_of_no_key hfind, (h.revises_pushSet _).owned.postingsAt_putListing ha,
        h.postingsAt_withKey ha hfind, h.postingsAt_pushSet _ hb]
    | some i =>
      have hadd : (m.postingsAt a).add k id = { m.postingsAt a with
          lists := (m.postingsAt a).lists.setIfInBounds i (((m.postingsAt a).listAt i).insert id) } := by
        rw [Postings.add, find?_postingsAt, hfind]
      cases hs : (m.listingAt a).sets[i]? with
      | none =>
        -- a key without a place for its set: nothing is entered on either side
        have hsize : (m.postingsAt a).lists.size ≤ i := by
          rw [postingsAt, Array.size_map]
          exact Array.getElem?_eq_none_iff.1 hs
        rw [addAt_of_no_set hfind hs, hadd, Array.setIfInBounds_eq_of_size_le hsize]
        split
        · next hb => rw [hb]
        · rfl
      | some s =>
        have hlist : (m.postingsAt a).listAt i = m.setAt s := by
          rw [listAt_postingsAt, hs]
          rfl
        rw [addAt_of_set hfind hs, hadd, hlist]
        exact h.postingsAt_putSet ha hs _ hb

section Removing

variable {i : Nat} {k : Scalar} {id : DocId} {o : Option Nat}

theorem listings_eraseFrom (m : Memory) (id : DocId) (o : Option Nat) :
    (m.eraseFrom id o).1.listings = m.listings := by
  cases o <;> rfl

theorem tables_eraseFrom (m : Memory) (id : DocId) (o : Option Nat) :
    (m.eraseFrom id o).1.tables = m.tables := by
  cases o <;> rfl

theorem listingAt_eraseFrom (m : Memory) (id : DocId) (o : Option Nat) (a : Nat) :
    (m.eraseFrom id o).1.listingAt a = m.listingAt a := by
  rw [listingAt, listings_eraseFrom, listingAt]

theorem Owned.revises_eraseFrom (h : m.Owned e l) (id : DocId) (ha : a ∈ l.places)
    (ho : (m.listingAt a).sets[i]? = o) : Revises e l m (m.eraseFrom id o).1 := by
  cases o with
  | none => exact h.revises
  | some s => exact h.revises_putSet (h.sets a ha s (Array.mem_of_getElem? ho)) _

theorem Owned.postingsAt_eraseFrom (h : m.Owned e l) (id : DocId) (ha : a ∈ l.places)
    (ho : (m.listingAt a).sets[i]? = o) (hb : b ∈ l.places) :
    (m.eraseFrom id o).1.postingsAt b = if b = a then { m.postingsAt a with
        lists := (m.postingsAt a).lists.setIfInBounds i (((m.postingsAt a).listAt i).erase id) }
      else m.postingsAt b := by
  cases o with
  | none =>
    have hsize : (m.postingsAt a).lists.size ≤ i := by
      rw [postingsAt, Array.size_map]
      exact Array.getElem?_eq_none_iff.1 ho
    rw [Array.setIfInBounds_eq_of_size_le hsize]
    split
    · next hb => rw [hb]; rfl
    · rfl
  | some s =>
    have hlist : (m.postingsAt a).listAt i = m.setAt s := by
      rw [listAt_postingsAt, ho]
      rfl
    rw [hlist]
    exact h.postingsAt_putSet ha ho _ hb

theorem eraseFrom_left (m : Memory) (a i : Nat) (id : DocId) :
    (m.eraseFrom id (m.listingAt a).sets[i]?).2 = ((m.postingsAt a).listAt i).erase id := by
  rw [listAt_postingsAt]
  cases (m.listingAt a).sets[i]? <;> rfl

/-- The list at a place without the key at one of its places. -/
def withoutKey (m : Memory) (a i : Nat) : Listing :=
  ⟨(m.listingAt a).keys.eraseIdxIfInBounds i, (m.listingAt a).sets.eraseIdxIfInBounds i⟩

theorem removeAt_of_no_key (hfind : (m.listingAt a).find? k = none) : m.removeAt a k id = m := by
  simp only [removeAt, hfind]

theorem removeAt_of_key (hfind : (m.listingAt a).find? k = some i) :
    m.removeAt a k id =
      if (((m.postingsAt a).listAt i).erase id).isEmpty then
        (m.eraseFrom id (m.listingAt a).sets[i]?).1.putListing a (m.withoutKey a i)
      else (m.eraseFrom id (m.listingAt a).sets[i]?).1 := by
  simp only [removeAt, hfind, eraseFrom_left, withoutKey]

theorem remove_postingsAt_of_key (hfind : (m.listingAt a).find? k = some i) :
    (m.postingsAt a).remove k id =
      if (((m.postingsAt a).listAt i).erase id).isEmpty then
        ⟨(m.postingsAt a).keys.eraseIdxIfInBounds i, (m.postingsAt a).lists.eraseIdxIfInBounds i⟩
      else { m.postingsAt a with
        lists := (m.postingsAt a).lists.setIfInBounds i (((m.postingsAt a).listAt i).erase id) } := by
  rw [Postings.remove, find?_postingsAt, hfind]

theorem Owned.revises_withoutKey (h : m.Owned e l) (ha : a ∈ l.places) (i : Nat) (id : DocId) :
    Revises e l m
      ((m.eraseFrom id (m.listingAt a).sets[i]?).1.putListing a (m.withoutKey a i)) := by
  have herase := h.revises_eraseFrom id ha (i := i) rfl
  refine herase.trans (herase.owned.revises_putListing ha ?_ fun s hs => .inl ?_)
  · rw [withoutKey, Array.toList_eraseIdxIfInBounds]
    exact (h.distinct a ha).sublist (List.eraseIdx_sublist ..)
  · rw [listingAt_eraseFrom]
    exact mem_of_mem_eraseIdxIfInBounds hs

theorem Owned.postingsAt_withoutKey (h : m.Owned e l) (ha : a ∈ l.places) (i : Nat) (id : DocId) :
    Postings.mk (m.withoutKey a i).keys
      ((m.withoutKey a i).sets.map (m.eraseFrom id (m.listingAt a).sets[i]?).1.setAt) =
        ⟨(m.postingsAt a).keys.eraseIdxIfInBounds i, (m.postingsAt a).lists.eraseIdxIfInBounds i⟩ := by
  have hlists : (m.listingAt a).sets.map (m.eraseFrom id (m.listingAt a).sets[i]?).1.setAt =
      (m.postingsAt a).lists.setIfInBounds i (((m.postingsAt a).listAt i).erase id) := by
    have herase := h.postingsAt_eraseFrom id ha (i := i) rfl ha
    rw [if_pos rfl, postingsAt, listingAt_eraseFrom] at herase
    exact congrArg Postings.lists herase
  rw [withoutKey, map_eraseIdxIfInBounds, hlists, eraseIdxIfInBounds_setIfInBounds]
  rfl

end Removing

theorem performs_removeAt (k : Scalar) (id : DocId) :
    Performs (fun m a => m.removeAt a k id) fun p => p.remove k id where
  tables m a := by
    cases hfind : (m.listingAt a).find? k with
    | none => rw [removeAt_of_no_key hfind]
    | some i =>
      rw [removeAt_of_key hfind]
      split <;> exact tables_eraseFrom ..
  revises {m e l a} h ha := by
    cases hfind : (m.listingAt a).find? k with
    | none =>
      rw [removeAt_of_no_key hfind]
      exact h.revises
    | some i =>
      rw [removeAt_of_key hfind]
      split
      · exact h.revises_withoutKey ha i id
      · exact h.revises_eraseFrom id ha rfl
  postingsAt {m e l a b} h ha hb := by
    cases hfind : (m.listingAt a).find? k with
    | none =>
      have hremove : (m.postingsAt a).remove k id = m.postingsAt a := by
        rw [Postings.remove, find?_postingsAt, hfind]
      rw [removeAt_of_no_key hfind, hremove]
      split
      · next hb => rw [hb]
      · rfl
    | some i =>
      -- The set is written in either case. The split asks only whether its key goes with the last document.
      have herase := h.postingsAt_eraseFrom id ha (i := i) rfl hb
      rw [removeAt_of_key hfind, remove_postingsAt_of_key hfind]
      split
      · rw [(h.revises_eraseFrom id ha rfl).owned.postingsAt_putListing ha, h.postingsAt_withoutKey ha, herase]
        split <;> rfl
      · exact herase

/-! ## All lists of a field -/

variable {change : Memory → Nat → Memory} {f : Postings Scalar → Postings Scalar}

/-- The lists of a field, among some of the lists of the index, are changed one after the other. -/
theorem Performs.foldl (hf : Performs change f) (field : String) {named : List (String × Nat)}
    (hsub : ∀ p ∈ named, p.2 ∈ l.places) (hnodup : (named.map Prod.snd).Nodup) (h : m.Owned e l) :
    let after := named.foldl (fun m (name, a) => if name = field then change m a else m) m
    after.tables = m.tables ∧ Revises e l m after ∧ ∀ b ∈ l.places,
      after.postingsAt b = if (field, b) ∈ named then f (m.postingsAt b) else m.postingsAt b := by
  induction named generalizing m with
  | nil => exact ⟨rfl, h.revises, fun b _ => by simp⟩
  | cons p named ih =>
    obtain ⟨name, a⟩ := p
    have ha : a ∈ l.places := hsub _ List.mem_cons_self
    obtain ⟨hnew, hnodup⟩ := List.nodup_cons.1 hnodup
    have hsub' : ∀ p ∈ named, p.2 ∈ l.places := fun p hp => hsub p (List.mem_cons_of_mem _ hp)
    simp only [List.foldl_cons]
    by_cases hname : name = field
    · subst hname
      rw [if_pos rfl]
      have hstep := hf.revises h ha
      obtain ⟨htables, hrevises, hpostings⟩ := ih hsub' hnodup hstep.owned
      refine ⟨htables.trans (hf.tables m a), hstep.trans hrevises, fun b hb => ?_⟩
      rw [hpostings b hb, hf.postingsAt h ha hb]
      by_cases hba : b = a
      · -- no place comes twice, so what follows leaves this list alone
        subst hba
        have hnot : (name, b) ∉ named := fun hmem => hnew (List.mem_map_of_mem hmem)
        rw [if_neg hnot, if_pos rfl, if_pos List.mem_cons_self]
      · have hiff : (name, b) ∈ (name, a) :: named ↔ (name, b) ∈ named := by simp [hba]
        simp only [if_neg hba, hiff]
    · rw [if_neg hname]
      obtain ⟨htables, hrevises, hpostings⟩ := ih hsub' hnodup h
      refine ⟨htables, hrevises, fun b hb => ?_⟩
      have hiff : (field, b) ∈ (name, a) :: named ↔ (field, b) ∈ named := by simp [Ne.symm hname]
      simp only [hpostings b hb, hiff]

/-- A change in place does to the index at `l` what a function does. -/
structure CarriesOut (f : Index → Index) (e : Extent) (l : Layout) (m m' : Memory) : Prop extends
    Revises e l m m' where
  read : ∀ schema, m'.read schema l = f (m.read schema l)

theorem Owned.carriesOut_id (h : m.Owned e l) : CarriesOut id e l m m := ⟨h.revises, fun _ => rfl⟩

theorem CarriesOut.trans {m' m'' : Memory} {f g : Index → Index} (h : CarriesOut f e l m m')
    (h' : CarriesOut g e l m' m'') : CarriesOut (g ∘ f) e l m m'' := by
  refine ⟨h.toRevises.trans h'.toRevises, fun schema => ?_⟩
  rw [h'.read, h.read]
  rfl

theorem Owned.carriesOut_putTable (h : m.Owned e l) (t : Table Place Filed) :
    CarriesOut (fun ix => { ix with documents := t }) e l m (m.putTable l.documents t) :=
  ⟨h.revises_putTable t, fun _ => h.read_putTable t⟩

theorem Performs.alter (hf : Performs change f) (h : m.Owned e l) (field : String) :
    CarriesOut (fun ix => ix.modify field f) e l m (m.alter l field change) := by
  obtain ⟨htables, hrevises, hpostings⟩ :=
    hf.foldl field (fun p hp => List.mem_map_of_mem hp) h.places h
  refine ⟨hrevises, fun schema => ?_⟩
  have htable : (m.alter l field change).tableAt l.documents = m.tableAt l.documents := by
    rw [tableAt, Memory.alter, htables, tableAt]
  rw [Memory.read, htable, Memory.read, Index.modify]
  congr 1
  rw [List.map_map]
  refine List.map_congr_left fun p hp => ?_
  obtain ⟨name, a⟩ := p
  have ha : a ∈ l.places := List.mem_map_of_mem hp
  -- the places are distinct, so the name of a list is the one that it has in the layout
  have hiff : (field, a) ∈ l.postings ↔ name = field := by
    refine ⟨fun hmem => ?_, fun hname => hname ▸ hp⟩
    exact congrArg Prod.fst (List.inj_on_of_nodup_map h.places hp hmem rfl)
  have hlist : (m.alter l field change).postingsAt a =
      if name = field then f (m.postingsAt a) else m.postingsAt a := by
    rw [← if_congr hiff rfl rfl]
    exact hpostings a ha
  exact congrArg (Prod.mk name) hlist

/-! ## Documents -/

theorem Performs.foldl_alter {change : Scalar → Memory → Nat → Memory}
    {f : Scalar → Postings Scalar → Postings Scalar} (hf : ∀ v, Performs (change v) (f v))
    (h : m.Owned e l) (d : Document) :
    CarriesOut (fun ix => d.foldl (fun ix (field, value) => ix.modify field (f value)) ix) e l m
      (d.foldl (fun m (field, value) => m.alter l field (change value)) m) := by
  induction d generalizing m with
  | nil => exact h.carriesOut_id
  | cons entry d ih =>
    have hstep := (hf entry.2).alter h entry.1
    exact hstep.trans (ih hstep.owned)

theorem Owned.enter (h : m.Owned e l) (id : DocId) (d : Document) :
    CarriesOut (fun ix => ix.enter id d) e l m (m.enter l id d) :=
  Performs.foldl_alter (fun v => performs_addAt v id) h d

theorem Owned.withdraw (h : m.Owned e l) (id : DocId) (d : Document) :
    CarriesOut (fun ix => ix.withdraw id d) e l m (m.withdraw l id d) :=
  Performs.foldl_alter (fun v => performs_removeAt v id) h d

/-! ## Writes and removals -/

theorem filed?_read (m : Memory) (schema : Schema) (l : Layout) (id : DocId) :
    (m.read schema l).filed? id = (m.tableAt l.documents).lookup id.place := rfl

theorem Owned.put (h : m.Owned e l) (id : DocId) (d : Document) :
    CarriesOut (fun ix => ix.put id d) e l m (m.put l id d) := by
  cases hold : (m.tableAt l.documents).lookup id.place with
  | none =>
    have hput := h.carriesOut_putTable ((m.tableAt l.documents).put id.place ⟨id, d⟩)
    have hall := hput.trans (hput.owned.enter id d)
    simp only [Memory.put, hold]
    refine ⟨hall.toRevises, fun schema => ?_⟩
    simp only [Index.put, filed?_read, hold]
    exact hall.read schema
  | some old =>
    have hwithdraw := h.withdraw id old.fields
    have hput := hwithdraw.owned.carriesOut_putTable
      ((m.tableAt l.documents).put id.place ⟨old.id, d⟩)
    have hall := (hwithdraw.trans hput).trans (hput.owned.enter id d)
    simp only [Memory.put, hold]
    refine ⟨hall.toRevises, fun schema => ?_⟩
    simp only [Index.put, filed?_read, hold]
    exact hall.read schema

theorem Owned.removeAll (h : m.Owned e l) (ids : List DocId) :
    CarriesOut (fun ix => (ix.removeAll ids).1) e l m (m.removeAll l ids).1 ∧
      ∀ schema, (m.removeAll l ids).2 = ((m.read schema l).removeAll ids).2 := by
  -- the documents before the first one that is missing stay removed
  induction ids generalizing m with
  | nil => exact ⟨h.carriesOut_id, fun _ => rfl⟩
  | cons id ids ih =>
    cases hold : (m.tableAt l.documents).lookup id.place with
    | none =>
      simp only [Memory.removeAll, hold]
      refine ⟨⟨h.revises, fun schema => ?_⟩, fun schema => ?_⟩ <;>
        simp only [Index.removeAll, filed?_read, hold]
    | some d =>
      have hput := h.carriesOut_putTable ((m.tableAt l.documents).without id.place)
      have hone := hput.trans (hput.owned.withdraw id d.fields)
      obtain ⟨hrest, houtcome⟩ := ih hone.owned
      simp only [Memory.removeAll, hold]
      refine ⟨⟨hone.toRevises.trans hrest.toRevises, fun schema => ?_⟩, fun schema => ?_⟩ <;>
        simp only [Index.removeAll, filed?_read, hold]
      · exact (hone.trans hrest).read schema
      · rw [houtcome schema, hone.read]
        rfl

end Memory

end TripleIndex
