import Mathlib.Algebra.GroupWithZero.Nat
import Mathlib.Data.List.Dedup
import TripleIndex.Proofs.Postings

/-!
Ranges and figures of posting lists. A range is cut out of the entries between two places found by
bisection, so it holds what the relation has between the ranks of its bounds; a bound that compares
with nothing bounds nothing. Keys and entries are counted as the relation has them.
-/

set_option linter.unusedSectionVars false

namespace TripleIndex

theorem IdSet.nodup_places (s : IdSet) : (places s.toList).Nodup := by
  have hascending : s.toList.Pairwise fun a b => a.place < b.place := s.ascending
  exact List.pairwise_map.2 (hascending.imp LT.lt.ne)

theorem IdSet.size_eq_length {s : IdSet} {qs : List Place} (hqs : qs.Nodup)
    (h : ∀ q, q ∈ s ↔ q ∈ qs) : s.size = qs.length := by
  have hperm : (places s.toList).Perm qs := (List.perm_ext_iff_of_nodup s.nodup_places hqs).2 h
  have hlength := hperm.length_eq
  rwa [places, List.length_map] at hlength

theorem total_eq_sum (ns : List Nat) : total ns = ns.sum := by
  induction ns with
  | nil => rfl
  | cons n ns ih => rw [total, ih, List.sum_cons]

namespace Postings

variable {κ L : Type} [Key κ] [LinearOrder L] {o : KeyOrder κ L} {p : Postings κ} {k : κ}

theorem lawful_empty : (empty : Postings κ).Lawful o :=
  lawful_ofEntries_iff.2 ⟨by simp, List.Pairwise.nil, by simp⟩

theorem not_relates_empty (r : L) (q : Place) : ¬ (empty : Postings κ).Relates o r q := by
  rintro ⟨e, he, -⟩
  cases he

/-! ## Ranges -/

theorem mem_foldl_union (q : Place) (lists : List IdSet) (s : IdSet) :
    q ∈ lists.foldl IdSet.union s ↔ q ∈ s ∨ ∃ t ∈ lists, q ∈ t := by
  induction lists generalizing s with
  | nil => simp
  | cons t lists ih =>
    rw [List.foldl_cons, ih, IdSet.mem_union]
    simp only [List.mem_cons, exists_eq_or_imp, or_assoc]

theorem mem_slice (hsizes : p.lists.size = p.keys.size) (start stop : Nat) (q : Place) :
    q ∈ p.slice start stop ↔ ∃ i e, p.entries[i]? = some e ∧ start ≤ i ∧ i < stop ∧ q ∈ e.2 := by
  rw [slice, ← Array.foldl_toList, mem_foldl_union]
  simp only [IdSet.not_mem_empty, false_or, Array.toList_extract, List.extract_eq_take_drop]
  have hlength : p.lists.toList.length = p.keys.toList.length := hsizes
  have hlists : p.lists.toList = p.entries.map Prod.snd := (List.map_snd_zip (Nat.le_of_eq hlength)).symm
  rw [hlists]
  constructor
  · rintro ⟨t, ht, hq⟩
    obtain ⟨j, hj⟩ := List.mem_iff_getElem?.1 ht
    rw [List.getElem?_take] at hj
    split at hj
    · next hlt =>
      rw [List.getElem?_drop, List.getElem?_map] at hj
      obtain ⟨e, he, rfl⟩ := Option.map_eq_some_iff.1 hj
      exact ⟨start + j, e, he, by omega, by omega, hq⟩
    · cases hj
  · rintro ⟨i, e, he, hstart, hstop, hq⟩
    refine ⟨e.2, List.mem_iff_getElem?.2 ⟨i - start, ?_⟩, hq⟩
    rw [List.getElem?_take, if_pos (by omega), List.getElem?_drop, List.getElem?_map,
      Nat.add_sub_cancel' hstart, he]
    rfl

theorem lt_length_iff {α : Type} {P : α → Prop} {front back : List α} {i : Nat} {e : α}
    (hfront : ∀ x ∈ front, P x) (hback : ∀ x ∈ back, ¬ P x) (he : (front ++ back)[i]? = some e) :
    i < front.length ↔ P e := by
  by_cases hi : i < front.length
  · rw [List.getElem?_append_left hi] at he
    exact iff_of_true hi (hfront e (List.mem_of_getElem? he))
  · rw [List.getElem?_append_right (by omega)] at he
    exact iff_of_false hi (hback e (List.mem_of_getElem? he))

theorem Lawful.eq_ofEntries (h : p.Lawful o) {es : List (κ × IdSet)} (hes : p.entries = es) :
    p = ofEntries es := by
  rw [← hes, ofEntries_entries h.sizes]

theorem Lawful.lt_lowerBound_iff (h : p.Lawful o) (hk : o.Admits k) {i : Nat} {e : κ × IdSet}
    (he : p.entries[i]? = some e) : i < p.lowerBound k ↔ o.rank e.1 < o.rank k := by
  obtain ⟨front, back, hes, hfront, hback⟩ :=
    exists_append_of_pairwise (P := fun e => o.rank e.1 < o.rank k)
      (h.ascending.imp fun hab hb => hab.trans hb)
  have hlt : ∀ x ∈ front, Key.lt x.1 k = true := fun x hx =>
    (o.lt_iff (h.admits x (by simp [hes, hx])) hk).2 (hfront x hx)
  have hge : ∀ x ∈ back, Key.lt x.1 k = false := fun x hx => Bool.eq_false_iff.2 fun hxk =>
    hback x hx ((o.lt_iff (h.admits x (by simp [hes, hx])) hk).1 hxk)
  have hbound : p.lowerBound k = front.length := by
    rw [h.eq_ofEntries hes, lowerBound_ofEntries hlt hge]
  rw [hbound]
  exact lt_length_iff hfront hback (hes ▸ he)

theorem Lawful.lt_upperBound_iff (h : p.Lawful o) (hk : o.Admits k) {i : Nat} {e : κ × IdSet}
    (he : p.entries[i]? = some e) : i < p.upperBound k ↔ o.rank e.1 ≤ o.rank k := by
  obtain ⟨front, back, hes, hfront, hback⟩ :=
    exists_append_of_pairwise (P := fun e => o.rank e.1 ≤ o.rank k)
      (h.ascending.imp fun hab hb => hab.le.trans hb)
  have hle : ∀ x ∈ front, Key.lt k x.1 = false := fun x hx => Bool.eq_false_iff.2 fun hkx =>
    (hfront x hx).not_gt ((o.lt_iff hk (h.admits x (by simp [hes, hx]))).1 hkx)
  have hgt : ∀ x ∈ back, Key.lt k x.1 = true := fun x hx =>
    (o.lt_iff hk (h.admits x (by simp [hes, hx]))).2 (not_le.1 (hback x hx))
  have hbound : p.upperBound k = front.length := by
    rw [h.eq_ofEntries hes, upperBound_ofEntries hle hgt]
  rw [hbound]
  exact lt_length_iff hfront hback (hes ▸ he)

theorem Lawful.lowerBound_eq_zero (h : p.Lawful o) (hk : ∀ key, Key.lt key k = false) :
    p.lowerBound k = 0 := by
  have hbound : (ofEntries ([] ++ p.entries)).lowerBound k = 0 :=
    lowerBound_ofEntries (by simp) fun x _ => hk x.1
  rwa [List.nil_append, ← h.eq_ofEntries rfl] at hbound

theorem Lawful.upperBound_eq_size (h : p.Lawful o) (hk : ∀ key, Key.lt k key = false) :
    p.upperBound k = p.size := by
  have hbound : (ofEntries (p.entries ++ [])).upperBound k = p.entries.length :=
    upperBound_ofEntries (fun x _ => hk x.1) (by simp)
  rw [List.append_nil, ← h.eq_ofEntries rfl] at hbound
  rw [hbound, entries, List.length_zip, Array.length_toList, Array.length_toList, h.sizes, Nat.min_self,
    size]

theorem Lawful.rangeStart_le_iff (h : p.Lawful o) {lower : Option κ}
    (hlower : ∀ b ∈ lower, o.Admits b ∨ ∀ key, Key.lt key b = false) {i : Nat} {e : κ × IdSet}
    (he : p.entries[i]? = some e) :
    p.rangeStart lower ≤ i ↔ ∀ b ∈ lower, o.Admits b → o.rank b ≤ o.rank e.1 := by
  cases lower with
  | none => simp [rangeStart]
  | some b =>
    have hstart : p.rangeStart (some b) = p.lowerBound b := rfl
    rw [hstart, ← Nat.not_lt]
    by_cases hb : o.Admits b
    · rw [h.lt_lowerBound_iff hb he]
      simp [hb]
    · rw [h.lowerBound_eq_zero ((hlower b rfl).resolve_left hb)]
      simp [hb]

theorem Lawful.lt_rangeStop_iff (h : p.Lawful o) {upper : Option κ}
    (hupper : ∀ b ∈ upper, o.Admits b ∨ ∀ key, Key.lt b key = false) {i : Nat} {e : κ × IdSet}
    (he : p.entries[i]? = some e) :
    i < p.rangeStop upper ↔ ∀ b ∈ upper, o.Admits b → o.rank e.1 ≤ o.rank b := by
  have hi : i < p.size := by
    have hlt := (List.getElem?_eq_some_iff.1 he).1
    rw [entries, List.length_zip, Array.length_toList] at hlt
    exact Nat.lt_of_lt_of_le hlt (Nat.min_le_left ..)
  cases upper with
  | none => simp [rangeStop, hi]
  | some b =>
    have hstop : p.rangeStop (some b) = p.upperBound b := rfl
    rw [hstop]
    by_cases hb : o.Admits b
    · rw [h.lt_upperBound_iff hb he]
      simp [hb]
    · rw [h.upperBound_eq_size ((hupper b rfl).resolve_left hb)]
      simp [hb, hi]

/-- A range holds the identifiers that the relation has for the ranks between its bounds. -/
theorem Lawful.mem_range (h : p.Lawful o) {lower upper : Option κ}
    (hlower : ∀ b ∈ lower, o.Admits b ∨ ∀ key, Key.lt key b = false)
    (hupper : ∀ b ∈ upper, o.Admits b ∨ ∀ key, Key.lt b key = false) (q : Place) :
    q ∈ p.range lower upper ↔ ∃ r, p.Relates o r q ∧ (∀ b ∈ lower, o.Admits b → o.rank b ≤ r) ∧
      ∀ b ∈ upper, o.Admits b → r ≤ o.rank b := by
  rw [range, mem_slice h.sizes]
  constructor
  · rintro ⟨i, e, he, hstart, hstop, hq⟩
    exact ⟨o.rank e.1, ⟨e, List.mem_of_getElem? he, rfl, hq⟩, (h.rangeStart_le_iff hlower he).1 hstart,
      (h.lt_rangeStop_iff hupper he).1 hstop⟩
  · rintro ⟨r, ⟨e, hmem, rfl, hq⟩, hstart, hstop⟩
    obtain ⟨i, he⟩ := List.mem_iff_getElem?.1 hmem
    exact ⟨i, e, he, (h.rangeStart_le_iff hlower he).2 hstart, (h.lt_rangeStop_iff hupper he).2 hstop, hq⟩

theorem lookup_eq_empty (hk : ∀ key ∈ p.keys.toList, Key.same key k = false) : p.lookup k = .empty := by
  have hkey : p.keyAt (Key.same · k) (p.lowerBound k) = false := by
    unfold keyAt
    split
    · next key hfound => exact hk key (Array.mem_toList_iff.2 (Array.mem_of_getElem? hfound))
    · rfl
  have hfind : p.find? k = none := by
    simp only [find?, hkey]
    rfl
  rw [lookup, hfind]

/-! ## Figures -/

theorem Lawful.keys_eq (h : p.Lawful o) : p.keys.toList = p.entries.map Prod.fst := by
  have hlength : p.lists.toList.length = p.keys.toList.length := h.sizes
  exact (List.map_fst_zip (Nat.le_of_eq hlength.symm)).symm

theorem Lawful.pairwise_keys (h : p.Lawful o) :
    p.keys.toList.Pairwise fun a b => o.rank a < o.rank b := by
  rw [h.keys_eq, List.pairwise_map]
  exact h.ascending

theorem Lawful.exists_key_iff (h : p.Lawful o) (r : L) :
    (∃ key ∈ p.keys.toList, o.rank key = r) ↔ ∃ q, p.Relates o r q := by
  rw [h.keys_eq]
  constructor
  · rintro ⟨key, hkey, rfl⟩
    obtain ⟨e, he, rfl⟩ := List.mem_map.1 hkey
    obtain ⟨q, hq⟩ := IdSet.exists_mem_of_ne_empty (h.filled e he)
    exact ⟨q, e, he, rfl, hq⟩
  · rintro ⟨q, e, he, rfl, -⟩
    exact ⟨e.1, List.mem_map_of_mem he, rfl⟩

end Postings

end TripleIndex
