import TripleIndex.Postings.Shelf
import TripleIndex.Proofs.Ranges
import TripleIndex.Proofs.Snapshots.Changes

/-!
Changes of one posting list in place. A list that uses no set twice is changed as the list with the sets
themselves is, its count goes up or down by one if the document came or went, and sets of other lists stay as
they were. No such change is a fault as long as every key has a set.
-/

namespace TripleIndex

variable {id : DocId}

theorem insertAscending_of_mem {xs : List DocId} (hxs : Ascending xs) (h : id.place ∈ places xs) :
    insertAscending id xs = xs := by
  induction xs with
  | nil => cases h
  | cons x xs ih =>
    rcases (mem_places_cons ..).1 h with hid | hid
    · have hnot : ∀ a b : DocId, a.place = b.place → ¬ a.precedes b = true := by
        intro a b hab hlt
        exact Place.lt_irrefl _ (hab ▸ (Scalar.precedes_iff ..).1 hlt)
      rw [insertAscending, if_neg (hnot id x hid), if_neg (hnot x id hid.symm)]
    · have hlt := hxs.lt_of_mem hid
      have hnot : ¬ id.precedes x = true := fun h =>
        Place.lt_irrefl _ (Place.lt_trans hlt ((Scalar.precedes_iff ..).1 h))
      rw [insertAscending, if_neg hnot, if_pos ((Scalar.precedes_iff ..).2 hlt), ih hxs.tail hid]

namespace IdSet

variable {s : IdSet}

theorem insert_of_mem (h : id.place ∈ s) : s.insert id = s := by
  obtain ⟨xs, hxs⟩ := s
  simp only [insert, insertAscending_of_mem hxs h]

theorem erase_of_not_mem (h : id.place ∉ s) : s.erase id = s := by
  have hlist : (s.toList.filter fun x => !x.sharesPlace id) = s.toList := by
    refine List.filter_eq_self.2 fun x hx => ?_
    rw [Bool.not_eq_true', Bool.eq_false_iff, ne_eq, Scalar.sharesPlace_iff]
    intro hplace
    exact h (hplace ▸ List.mem_map_of_mem hx)
  obtain ⟨xs, hxs⟩ := s
  simp only [erase, hlist]

end IdSet

theorem partitionPoint_le (holds : Nat → Bool) (steps : Nat) {low high : Nat} (h : low ≤ high) :
    partitionPoint holds steps low high ≤ high := by
  induction steps generalizing low high with
  | zero => exact h
  | succ steps ih =>
    rw [partitionPoint]
    split
    · next hlt =>
      dsimp only
      split
      · exact ih (by omega)
      · exact Nat.le_trans (ih (by omega)) (by omega)
    · exact h

namespace Postings

variable {κ : Type} {p : Postings κ} {i : Nat}

theorem setIfInBounds_listAt (p : Postings κ) (i : Nat) : p.lists.setIfInBounds i (p.listAt i) = p.lists := by
  apply Array.ext_getElem?
  intro j
  rw [Array.getElem?_setIfInBounds]
  split
  · next hj =>
    subst hj
    split
    · next hi => rw [listAt, Array.getElem?_eq_getElem hi, Option.getD_some]
    · next hi => exact (Array.getElem?_eq_none (Nat.le_of_not_lt hi)).symm
  · rfl

variable [Key κ] {k : κ}

theorem rangeStop_le (p : Postings κ) (upper : Option κ) : p.rangeStop upper ≤ p.size := by
  cases upper with
  | none => exact Nat.le_refl _
  | some k => exact partitionPoint_le _ _ (Nat.zero_le _)

theorem add_of_mem_lookup (h : id.place ∈ p.lookup k) : p.add k id = p := by
  cases hfind : p.find? k with
  | none =>
    rw [lookup, hfind] at h
    exact absurd h (IdSet.not_mem_empty _)
  | some i =>
    rw [lookup, hfind] at h
    rw [add, hfind]
    simp only [IdSet.insert_of_mem h, setIfInBounds_listAt]

theorem remove_of_not_mem_lookup (hfilled : ∀ i, p.find? k = some i → p.listAt i ≠ .empty)
    (h : id.place ∉ p.lookup k) : p.remove k id = p := by
  cases hfind : p.find? k with
  | none => rw [remove, hfind]
  | some i =>
    rw [lookup, hfind] at h
    rw [remove, hfind]
    simp only [IdSet.erase_of_not_mem h, setIfInBounds_listAt]
    rw [if_neg fun hempty => hfilled i hfind ((IdSet.isEmpty_iff _).1 hempty)]

end Postings

namespace Ledger

variable {κ : Type} {l l' : Ledger κ} {sets sets' : Array IdSet} {i place : Nat}

/-! ## Sets and their places -/

/-- The sets of a list are there and not empty, and none of them is used twice. -/
structure Owns (l : Ledger κ) (sets : Array IdSet) : Prop where
  bounded : ∀ a ∈ l.sets, a < sets.size
  distinct : l.sets.toList.Nodup
  filled : ∀ a ∈ l.sets, setAt sets a ≠ .empty

/-- A list and all sets before and after a change of the list. It has gained no set that was there before, and
the sets that it did not have are as they were. -/
structure Revises (l : Ledger κ) (sets : Array IdSet) (l' : Ledger κ) (sets' : Array IdSet) : Prop where
  owns : l'.Owns sets'
  gained : ∀ a ∈ l'.sets, a ∈ l.sets ∨ sets.size ≤ a
  grows : sets.size ≤ sets'.size
  others : ∀ a < sets.size, a ∉ l.sets → sets'[a]? = sets[a]?

theorem Owns.revises (h : l.Owns sets) (hsets : l'.sets = l.sets) : l.Revises sets l' sets where
  owns := ⟨hsets ▸ h.bounded, hsets ▸ h.distinct, hsets ▸ h.filled⟩
  gained _ ha := .inl (hsets ▸ ha)
  grows := Nat.le_refl _
  others _ _ _ := rfl

theorem owns_empty (field : String) (sets : Array IdSet) : (empty field : Ledger κ).Owns sets where
  bounded := by simp [empty]
  distinct := by simp [empty]
  filled := by simp [empty]

theorem setAt_congr {a : Nat} (h : sets'[a]? = sets[a]?) : setAt sets' a = setAt sets a := by
  rw [setAt, h, setAt]

theorem Owns.congr (h : l.Owns sets) (hgrows : sets.size ≤ sets'.size)
    (hsame : ∀ a ∈ l.sets, sets'[a]? = sets[a]?) : l.Owns sets' where
  bounded a ha := Nat.lt_of_lt_of_le (h.bounded a ha) hgrows
  distinct := h.distinct
  filled a ha := by
    rw [setAt_congr (hsame a ha)]
    exact h.filled a ha

theorem postings_empty (field : String) (sets : Array IdSet) :
    (empty field : Ledger κ).postings sets = .empty := by
  rw [postings, empty, Array.map_empty]
  rfl

theorem postings_congr (h : ∀ a ∈ l.sets, sets'[a]? = sets[a]?) : l.postings sets' = l.postings sets := by
  have hlists : l.sets.map (setAt sets') = l.sets.map (setAt sets) :=
    Array.map_congr_left fun a ha => setAt_congr (h a ha)
  rw [postings, hlists, postings]

theorem listAt_postings (h : l.sets[i]? = some place) : (l.postings sets).listAt i = setAt sets place := by
  rw [Postings.listAt, postings, Array.getElem?_map, h]
  rfl

theorem Owns.map_setAt (h : l.Owns sets) (hplace : l.sets[i]? = some place) (ids : IdSet) :
    l.sets.map (setAt (sets.setIfInBounds place ids)) = (l.sets.map (setAt sets)).setIfInBounds i ids := by
  have hlt : place < sets.size := h.bounded place (Array.mem_of_getElem? hplace)
  have hi : i < l.sets.size := (Array.getElem?_eq_some_iff.1 hplace).1
  apply Array.ext_getElem?
  intro j
  rw [Array.getElem?_setIfInBounds, Array.getElem?_map, Array.getElem?_map]
  split
  · next hj =>
    subst hj
    rw [hplace, Option.map_some, setAt, Array.getElem?_setIfInBounds_self_of_lt hlt]
    simp [hi]
  · next hj =>
    cases hother : l.sets[j]? with
    | none => rfl
    | some other =>
      have hne : place ≠ other := by
        rintro rfl
        have hsame : l.sets.toList[i]? = l.sets.toList[j]? := by
          rw [Array.getElem?_toList, Array.getElem?_toList, hplace, hother]
        exact hj ((List.getElem?_inj hi h.distinct).1 hsame)
      rw [Option.map_some, Option.map_some, setAt, Array.getElem?_setIfInBounds_ne hne, setAt]

/-- One set is written, and the list keeps some of its sets, this one only if it is not empty now. -/
theorem Owns.revises_set (h : l.Owns sets) (hplace : l.sets[i]? = some place) {ids : IdSet}
    (hsets : l'.sets.toList.Sublist l.sets.toList) (hids : place ∈ l'.sets → ids ≠ .empty) :
    l.Revises sets l' (sets.setIfInBounds place ids) := by
  have hmem : ∀ a ∈ l'.sets, a ∈ l.sets := fun a ha =>
    Array.mem_toList_iff.1 (hsets.subset (Array.mem_toList_iff.2 ha))
  have hsize : (sets.setIfInBounds place ids).size = sets.size := Array.size_setIfInBounds
  have hlt : place < sets.size := h.bounded place (Array.mem_of_getElem? hplace)
  have hfilled : ∀ a ∈ l'.sets, setAt (sets.setIfInBounds place ids) a ≠ .empty := by
    intro a ha
    by_cases hap : place = a
    · subst hap
      rw [setAt, Array.getElem?_setIfInBounds_self_of_lt hlt]
      exact hids ha
    · rw [setAt_congr (Array.getElem?_setIfInBounds_ne hap)]
      exact h.filled a (hmem a ha)
  refine ⟨⟨fun a ha => ?_, h.distinct.sublist hsets, hfilled⟩, fun a ha => .inl (hmem a ha), hsize.ge,
    fun a _ ha => ?_⟩
  · rw [hsize]
    exact h.bounded a (hmem a ha)
  · refine Array.getElem?_setIfInBounds_ne ?_
    rintro rfl
    exact ha (Array.mem_of_getElem? hplace)

theorem Owns.revises_push (h : l.Owns sets) {ids : IdSet} (hids : ids ≠ .empty)
    (hsets : l'.sets = l.sets.insertIdxIfInBounds i sets.size) : l.Revises sets l' (sets.push ids) := by
  have hgained : ∀ a ∈ l'.sets, a = sets.size ∨ a ∈ l.sets := fun a ha =>
    mem_of_mem_insertIdxIfInBounds (hsets ▸ ha)
  have hnew : sets.size ∉ l.sets := fun hmem => Nat.lt_irrefl _ (h.bounded _ hmem)
  have hold : ∀ a < sets.size, (sets.push ids)[a]? = sets[a]? := fun a ha => by
    rw [Array.getElem?_push_lt ha, Array.getElem?_eq_getElem ha]
  refine ⟨⟨fun a ha => ?_, ?_, fun a ha => ?_⟩, fun a ha => ?_, ?_, fun a ha _ => hold a ha⟩
  · rw [Array.size_push]
    rcases hgained a ha with rfl | ha
    · exact Nat.lt_succ_self _
    · exact Nat.lt_succ_of_lt (h.bounded a ha)
  · rw [hsets, toList_insertIdxIfInBounds]
    exact nodup_insertIdx h.distinct fun hmem => hnew (Array.mem_toList_iff.1 hmem)
  · rcases hgained a ha with rfl | ha
    · rwa [setAt, Array.getElem?_push_size]
    · rw [setAt_congr (hold a (h.bounded a ha))]
      exact h.filled a ha
  · exact (hgained a ha).symm.imp_right fun ha => ha.ge
  · rw [Array.size_push]
    exact Nat.le_succ _

/-- The list without the key at one of its places. -/
def withoutKey (l : Ledger κ) (i : Nat) : Ledger κ :=
  { l with keys := l.keys.eraseIdxIfInBounds i, sets := l.sets.eraseIdxIfInBounds i }

/-- One set is written, and if it is empty now, its key goes. -/
theorem Owns.revises_erase (h : l.Owns sets) (hplace : l.sets[i]? = some place) (ids : IdSet) (n : Int) :
    l.Revises sets { (if ids.isEmpty then l.withoutKey i else l) with entries := n }
      (sets.setIfInBounds place ids) := by
  split
  · have hi : i < l.sets.toList.length := (Array.getElem?_eq_some_iff.1 hplace).1
    have hat : l.sets.toList[i]? = some place := (Array.getElem?_toList ..).trans hplace
    refine h.revises_set hplace ?_ fun hkept => ?_
    · rw [withoutKey, Array.toList_eraseIdxIfInBounds]
      exact List.eraseIdx_sublist ..
    · -- no set is used twice, so this one has gone with its key
      rw [withoutKey, ← Array.mem_toList_iff, Array.toList_eraseIdxIfInBounds] at hkept
      obtain ⟨j, hj, hsame⟩ := List.mem_eraseIdx_iff_getElem?.1 hkept
      exact absurd ((List.getElem?_inj hi h.distinct).1 (hat.trans hsame.symm)) hj.symm
  · next hids =>
    exact h.revises_set hplace (List.Sublist.refl _) fun _ heq => hids ((IdSet.isEmpty_iff _).2 heq)

theorem Owns.postings_push (h : l.Owns sets) (ids : IdSet) : l.postings (sets.push ids) = l.postings sets :=
  postings_congr fun a ha => by
    rw [Array.getElem?_push_lt (h.bounded a ha), Array.getElem?_eq_getElem (h.bounded a ha)]

/-! ## Copies -/

theorem mem_sets_copy {a : Nat} (ha : a ∈ (l.copy sets).1.sets) : sets.size ≤ a ∧ a < (l.copy sets).2.size := by
  obtain ⟨j, hj, rfl⟩ := Array.mem_range'.1 ha
  have hsize : (l.copy sets).2.size = sets.size + l.sets.size := by simp [copy]
  omega

theorem getElem?_copy (l : Ledger κ) {a : Nat} (ha : a < sets.size) : (l.copy sets).2[a]? = sets[a]? :=
  Array.getElem?_append_left ha

theorem postings_copy (l : Ledger κ) (sets : Array IdSet) :
    (l.copy sets).1.postings (l.copy sets).2 = l.postings sets := by
  refine congrArg (Postings.mk l.keys) ?_
  apply Array.ext_getElem?
  intro i
  rw [Array.getElem?_map, Array.getElem?_map, copy, Array.getElem?_range']
  by_cases hi : i < l.sets.size
  · simp [hi, setAt]
  · simp [hi]

theorem Owns.copy (h : l.Owns sets) : (l.copy sets).1.Owns (l.copy sets).2 where
  bounded _ ha := (mem_sets_copy ha).2
  distinct := by
    rw [Ledger.copy, Array.toList_range']
    exact List.nodup_range'
  filled a ha := by
    have hlists : (l.copy sets).1.sets.map (setAt (l.copy sets).2) = l.sets.map (setAt sets) :=
      congrArg Postings.lists (postings_copy l sets)
    obtain ⟨b, hb, heq⟩ := Array.mem_map.1 (hlists ▸ Array.mem_map_of_mem ha)
    exact heq ▸ h.filled b hb

/-! ## Finding a key -/

variable [Key κ] {k : κ}

theorem lt_of_find? (h : l.find? k = some i) : i < l.keys.size := by
  have hkey : (Postings.mk l.keys #[]).keyAt (Key.same · k) i = true := by
    simp only [find?, Postings.find?] at h
    split at h
    · next hkey =>
      cases h
      exact hkey
    · cases h
  by_contra hge
  rw [Postings.keyAt, Array.getElem?_eq_none (Nat.le_of_not_lt hge)] at hkey
  cases hkey

theorem find?_of_locate_none (h : l.locate k = .ok none) (sets : Array IdSet) :
    (l.postings sets).find? k = none := by
  rw [locate] at h
  split at h
  · next hfind => exact hfind
  · split at h <;> cases h

theorem find?_of_locate_some (h : l.locate k = .ok (some (i, place))) (sets : Array IdSet) :
    (l.postings sets).find? k = some i ∧ l.sets[i]? = some place := by
  rw [locate] at h
  split at h
  · cases h
  · next hfind =>
    split at h
    · cases h
    · next hplace =>
      cases h
      exact ⟨hfind, hplace⟩

theorem exists_locate (hsizes : l.sets.size = l.keys.size) (k : κ) : ∃ found, l.locate k = .ok found := by
  cases hfind : l.find? k with
  | none => exact ⟨none, by rw [locate, hfind]⟩
  | some i =>
    have hi : i < l.sets.size := hsizes ▸ lt_of_find? hfind
    exact ⟨some (i, l.sets[i]), by simp only [locate, hfind, Array.getElem?_eq_getElem hi]⟩

/-! ## Asking -/

variable {found : Option (Nat × Nat)}

theorem lookup_postings (hlocate : l.locate k = .ok found) (sets : Array IdSet) :
    (l.postings sets).lookup k = (found.map fun at_ => setAt sets at_.2).getD .empty := by
  cases found with
  | none => rw [Postings.lookup, find?_of_locate_none hlocate, Option.map_none, Option.getD_none]
  | some at_ =>
    obtain ⟨hfind, hplace⟩ := find?_of_locate_some hlocate sets
    rw [Postings.lookup, hfind]
    exact listAt_postings hplace

theorem lookup_eq (hlocate : l.locate k = .ok found) (sets : Array IdSet) :
    l.lookup k sets = .ok ((l.postings sets).lookup k) := by
  rw [lookup, hlocate, lookup_postings hlocate]
  cases found <;> rfl

theorem range_eq (hsizes : l.sets.size = l.keys.size) (lower upper : Option κ) (sets : Array IdSet) :
    l.range lower upper sets = .ok ((l.postings sets).range lower upper) := by
  have hstop : (l.postings sets).rangeStop upper ≤ l.sets.size := hsizes ▸ Postings.rangeStop_le ..
  rw [range, if_neg (by simp [Nat.not_lt.2 hstop]), Postings.range]

/-! ## Entering and removing -/

/-- What a change of a list comes to: the list with the sets themselves is changed by a function, and some
number is added to the count. -/
structure Performs (l : Ledger κ) (sets : Array IdSet) (f : Postings κ → Postings κ) (n : Int)
    (changed : Ledger κ × Array IdSet) : Prop where
  revises : l.Revises sets changed.1 changed.2
  postings : changed.1.postings changed.2 = f (l.postings sets)
  entries : changed.1.entries = l.entries + n

theorem add_of_new (hlocate : l.locate k = .ok none) : l.add k id sets =
    .ok ({ l.enterKey k with
        sets := l.sets.insertIdxIfInBounds (min (l.lowerBound k) l.sets.size) sets.size
        entries := l.entries + 1 },
      sets.push (.ofList [id])) := by
  rw [add, hlocate]
  rfl

theorem add_of_known (hlocate : l.locate k = .ok (some (i, place))) : l.add k id sets =
    if (setAt sets place).contains id then .ok (l, sets)
    else .ok ({ l with entries := l.entries + 1 },
      sets.setIfInBounds place ((setAt sets place).insert id)) := by
  rw [add, hlocate]
  rfl

theorem remove_of_unknown (hlocate : l.locate k = .ok none) : l.remove k id sets = .ok (l, sets) := by
  rw [remove, hlocate]
  rfl

theorem remove_of_known (hlocate : l.locate k = .ok (some (i, place))) : l.remove k id sets =
    if (setAt sets place).contains id then
      .ok ({ (if ((setAt sets place).erase id).isEmpty then l.withoutKey i else l) with
          entries := l.entries - 1 },
        sets.setIfInBounds place ((setAt sets place).erase id))
    else .ok (l, sets) := by
  rw [remove, hlocate]
  show (if _ then (if _ then _ else _) else _) = _
  split
  · split <;> rfl
  · rfl

theorem Owns.exists_add (h : l.Owns sets) (hlocate : l.locate k = .ok found) (id : DocId) :
    ∃ changed, l.add k id sets = .ok changed ∧ l.Performs sets (·.add k id)
      (if ((l.postings sets).lookup k).contains id then 0 else 1) changed := by
  have hlookup := lookup_postings hlocate sets
  -- A new key takes a fresh cell, which no list in use can see. A known key writes to its own cell.
  cases found with
  | none =>
    have hfind := find?_of_locate_none hlocate sets
    have hfilled : IdSet.ofList [id] ≠ .empty :=
      IdSet.ne_empty_of_mem ((IdSet.mem_ofList ..).2 (List.mem_singleton_self id.place))
    have hold : l.sets.map (setAt (sets.push (.ofList [id]))) = l.sets.map (setAt sets) :=
      congrArg Postings.lists (h.postings_push _)
    have hnew : setAt (sets.push (.ofList [id])) sets.size = .ofList [id] := by
      rw [setAt, Array.getElem?_push_size]
      rfl
    rw [add_of_new hlocate, hlookup]
    refine ⟨_, rfl, h.revises_push hfilled rfl, ?_, rfl⟩
    rw [Postings.add, hfind]
    simp only [postings, enterKey, Postings.enterList, Postings.enterKey, map_insertIdxIfInBounds, hold, hnew,
      Array.size_map]
    rfl
  | some at_ =>
    obtain ⟨i, place⟩ := at_
    obtain ⟨hfind, hplace⟩ := find?_of_locate_some hlocate sets
    have hlist : (l.postings sets).listAt i = setAt sets place := listAt_postings hplace
    have hfilled : (setAt sets place).insert id ≠ .empty :=
      IdSet.ne_empty_of_mem ((IdSet.mem_insert ..).2 (.inl rfl))
    rw [Option.map_some, Option.getD_some] at hlookup
    rw [add_of_known hlocate, hlookup]
    split
    · next hheld =>
      have hmem : id.place ∈ (l.postings sets).lookup k := hlookup ▸ (IdSet.contains_iff ..).1 hheld
      exact ⟨_, rfl, h.revises rfl, (Postings.add_of_mem_lookup hmem).symm, (Int.add_zero _).symm⟩
    · refine ⟨_, rfl, h.revises_set hplace (List.Sublist.refl _) fun _ => hfilled, ?_, rfl⟩
      rw [Postings.add, hfind]
      simp only [hlist]
      exact congrArg (Postings.mk l.keys) (h.map_setAt hplace _)

theorem Owns.exists_remove (h : l.Owns sets) (hlocate : l.locate k = .ok found) (id : DocId) :
    ∃ changed, l.remove k id sets = .ok changed ∧ l.Performs sets (·.remove k id)
      (if ((l.postings sets).lookup k).contains id then -1 else 0) changed := by
  have hlookup := lookup_postings hlocate sets
  cases found with
  | none =>
    rw [remove_of_unknown hlocate, hlookup]
    refine ⟨_, rfl, h.revises rfl, ?_, (Int.add_zero _).symm⟩
    rw [Postings.remove, find?_of_locate_none hlocate]
  | some at_ =>
    obtain ⟨i, place⟩ := at_
    obtain ⟨hfind, hplace⟩ := find?_of_locate_some hlocate sets
    have hlist : (l.postings sets).listAt i = setAt sets place := listAt_postings hplace
    rw [Option.map_some, Option.getD_some] at hlookup
    rw [remove_of_known hlocate, hlookup]
    split
    · refine ⟨_, rfl, h.revises_erase hplace .., ?_, rfl⟩
      have hlists := h.map_setAt hplace ((setAt sets place).erase id)
      rw [Postings.remove, hfind]
      simp only [hlist]
      split
      · -- an empty set is written before it is taken out, which makes no difference to the others
        have herased := eraseIdxIfInBounds_setIfInBounds (l.sets.map (setAt sets)) i ((setAt sets place).erase id)
        refine congrArg (Postings.mk (l.keys.eraseIdxIfInBounds i)) ?_
        exact (map_eraseIdxIfInBounds ..).trans (hlists ▸ herased)
      · exact congrArg (Postings.mk l.keys) hlists
    · next hheld =>
      have hmem : id.place ∉ (l.postings sets).lookup k := fun hmem =>
        hheld ((IdSet.contains_iff ..).2 (hlookup ▸ hmem))
      have hsome : ∀ j, (l.postings sets).find? k = some j → (l.postings sets).listAt j ≠ .empty := by
        intro j hj
        cases hfind.symm.trans hj
        exact hlist ▸ h.filled place (Array.mem_of_getElem? hplace)
      exact ⟨_, rfl, h.revises rfl, (Postings.remove_of_not_mem_lookup hsome hmem).symm, (Int.add_zero _).symm⟩

end Ledger

end TripleIndex
