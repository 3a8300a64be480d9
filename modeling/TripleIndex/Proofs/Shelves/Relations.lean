import Mathlib.Data.Finset.Card
import TripleIndex.Proofs.Shelves.Changes

/-!
Posting lists as relations. A list stands for a finite set of pairs of the rank of a key and the place of an
identifier. Entering puts one pair in, removing takes one out, and a copy is another list for the same pairs.
Whatever is done to any number of lists, each of them stands for its own pairs afterwards: it counts them, and
it answers every question about a key or a range of keys from them.
-/

namespace TripleIndex

variable {κ L : Type} [Key κ] [LinearOrder L] {o : KeyOrder κ L}

namespace Postings

variable {p : Postings κ}

/-- The pairs of the list, by its keys. -/
def pairs (o : KeyOrder κ L) (p : Postings κ) : List (L × Place) :=
  p.entries.flatMap fun e => (places e.2.toList).map (o.rank e.1, ·)

theorem mem_pairs (x : L) (q : Place) : (x, q) ∈ p.pairs o ↔ p.Relates o x q := by
  rw [pairs, List.mem_flatMap]
  refine exists_congr fun e => and_congr_right fun _ => ?_
  simp only [List.mem_map, Prod.mk.injEq]
  constructor
  · rintro ⟨q, hq, rfl, rfl⟩
    exact ⟨rfl, hq⟩
  · rintro ⟨rfl, hq⟩
    exact ⟨q, hq, rfl, rfl⟩

theorem Lawful.nodup_pairs (h : p.Lawful o) : (p.pairs o).Nodup := by
  refine List.nodup_flatMap.2 ⟨fun e _ => e.2.nodup_places.map fun q q' heq => (Prod.mk.inj heq).2, ?_⟩
  -- different keys have different ranks
  refine h.ascending.imp fun {a b} hlt pair ha hb => ?_
  obtain ⟨q, -, rfl⟩ := List.mem_map.1 ha
  obtain ⟨q', -, heq⟩ := List.mem_map.1 hb
  exact hlt.ne' (Prod.mk.inj heq).1

theorem Lawful.length_pairs (h : p.Lawful o) : (p.pairs o).length = p.entryCount := by
  have hlists : p.lists.toList = p.entries.map Prod.snd := (List.map_snd_zip (Nat.le_of_eq h.sizes)).symm
  rw [pairs, entryCount, total_eq_sum, hlists, List.length_flatMap, List.map_map]
  congr 1
  exact List.map_congr_left fun e _ => by simp [places, IdSet.size]

/-- What adding up the sets of a list comes to is the number of its pairs. -/
theorem Lawful.entryCount_eq_card (h : p.Lawful o) {r : Finset (L × Place)}
    (hr : ∀ x q, p.Relates o x q ↔ (x, q) ∈ r) : p.entryCount = r.card := by
  have hpairs : (p.pairs o).toFinset = r :=
    Finset.ext fun pair => by rw [List.mem_toFinset, mem_pairs, hr]
  rw [← h.length_pairs, ← hpairs, List.toFinset_card_of_nodup h.nodup_pairs]

end Postings

/-! ## One list -/

/-- A list with sets of its own that stands for some pairs and has counted them. -/
structure Ledger.Stands (o : KeyOrder κ L) (l : Ledger κ) (sets : Array IdSet) (r : Finset (L × Place)) :
    Prop where
  owns : l.Owns sets
  lawful : (l.postings sets).Lawful o
  relates : ∀ x q, (l.postings sets).Relates o x q ↔ (x, q) ∈ r
  entries : l.entries = r.card

namespace Ledger

variable {l : Ledger κ} {sets sets' : Array IdSet} {r : Finset (L × Place)} {k : κ}

theorem stands_empty (field : String) (sets : Array IdSet) : (Ledger.empty field : Ledger κ).Stands o sets ∅ where
  owns := owns_empty field sets
  lawful := (postings_empty field sets).symm ▸ Postings.lawful_empty
  relates x q := by
    rw [postings_empty]
    exact iff_of_false (Postings.not_relates_empty x q) (Finset.notMem_empty _)
  entries := rfl

theorem Stands.sizes (h : l.Stands o sets r) : l.sets.size = l.keys.size := by
  have hsizes : (l.postings sets).lists.size = (l.postings sets).keys.size := h.lawful.sizes
  rwa [postings, Array.size_map] at hsizes

theorem Stands.congr (h : l.Stands o sets r) (hgrows : sets.size ≤ sets'.size)
    (hsame : ∀ a ∈ l.sets, sets'[a]? = sets[a]?) : l.Stands o sets' r where
  owns := h.owns.congr hgrows hsame
  lawful := (postings_congr hsame).symm ▸ h.lawful
  relates := (postings_congr hsame).symm ▸ h.relates
  entries := h.entries

theorem Stands.copy (h : l.Stands o sets r) : (l.copy sets).1.Stands o (l.copy sets).2 r where
  owns := h.owns.copy
  lawful := (postings_copy l sets).symm ▸ h.lawful
  relates := (postings_copy l sets).symm ▸ h.relates
  entries := h.entries

theorem Stands.contains_iff (h : l.Stands o sets r) (hk : o.Admits k) (id : DocId) :
    ((l.postings sets).lookup k).contains id = true ↔ (o.rank k, id.place) ∈ r := by
  rw [IdSet.contains_iff, h.lawful.mem_lookup hk, h.relates]

theorem Stands.add (h : l.Stands o sets r) (hk : o.Admits k) (id : DocId) :
    ∃ changed, l.add k id sets = .ok changed ∧ l.Revises sets changed.1 changed.2 ∧
      changed.1.Stands o changed.2 (insert (o.rank k, id.place) r) := by
  obtain ⟨found, hlocate⟩ := exists_locate h.sizes k
  obtain ⟨changed, hadd, hrevises, hpostings, hentries⟩ := h.owns.exists_add hlocate id
  obtain ⟨hlawful, hrelates⟩ := h.lawful.add hk id
  refine ⟨changed, hadd, hrevises, hrevises.owns, hpostings ▸ hlawful, fun x q => ?_, ?_⟩
  · rw [hpostings, hrelates, h.relates, Finset.mem_insert, Prod.mk.injEq, or_comm]
  · rw [hentries, h.entries]
    by_cases hmem : (o.rank k, id.place) ∈ r
    · rw [if_pos ((h.contains_iff hk id).2 hmem), Finset.insert_eq_of_mem hmem, Int.add_zero]
    · rw [if_neg (mt (h.contains_iff hk id).1 hmem), Finset.card_insert_of_notMem hmem, Int.natCast_succ]

theorem Stands.remove (h : l.Stands o sets r) (hk : o.Admits k) (id : DocId) :
    ∃ changed, l.remove k id sets = .ok changed ∧ l.Revises sets changed.1 changed.2 ∧
      changed.1.Stands o changed.2 (r.erase (o.rank k, id.place)) := by
  obtain ⟨found, hlocate⟩ := exists_locate h.sizes k
  obtain ⟨changed, hremove, hrevises, hpostings, hentries⟩ := h.owns.exists_remove hlocate id
  obtain ⟨hlawful, hrelates⟩ := h.lawful.remove hk id
  refine ⟨changed, hremove, hrevises, hrevises.owns, hpostings ▸ hlawful, fun x q => ?_, ?_⟩
  · rw [hpostings, hrelates, h.relates, Finset.mem_erase, ne_eq, Prod.mk.injEq, and_comm]
  · rw [hentries, h.entries]
    by_cases hmem : (o.rank k, id.place) ∈ r
    · have hcard := Finset.card_erase_add_one hmem
      rw [if_pos ((h.contains_iff hk id).2 hmem)]
      omega
    · rw [if_neg (mt (h.contains_iff hk id).1 hmem), Finset.erase_eq_of_notMem hmem, Int.add_zero]

/-- What a list shows that has to do with the given pairs and no others. Its keys ascend strictly, each has a
set of documents that is not empty, and it counts the pairs. For a key it gives the identifiers that are paired
with it, and for a range of keys, whose bounds may be absent, those that are paired with one of the range; a range
that ends before it begins has none. -/
structure Shows (o : KeyOrder κ L) (l : Ledger κ) (sets : Array IdSet) (r : Finset (L × Place)) : Prop where
  sizes : l.sets.size = l.keys.size
  ascending : l.keys.toList.Pairwise fun a b => Key.lt a b = true
  filled : ∀ a ∈ l.sets, ∃ ids, sets[a]? = some ids ∧ ids ≠ .empty
  entries : l.entries = r.card
  entryCount : l.entries = (l.postings sets).entryCount
  lookup : ∀ k, o.Admits k → ∃ ids, l.lookup k sets = .ok ids ∧ ∀ q, q ∈ ids ↔ (o.rank k, q) ∈ r
  range : ∀ lower upper : Option κ, (∀ b ∈ lower, o.Admits b) → (∀ b ∈ upper, o.Admits b) →
    ∃ ids, l.range lower upper sets = .ok ids ∧ ∀ q, q ∈ ids ↔
      ∃ x, (x, q) ∈ r ∧ (∀ b ∈ lower, o.rank b ≤ x) ∧ ∀ b ∈ upper, x ≤ o.rank b
  crossed : ∀ lower upper, o.Admits lower → o.Admits upper → Key.lt upper lower = true →
    l.range (some lower) (some upper) sets = .ok .empty

theorem Stands.ascending (h : l.Stands o sets r) : l.keys.toList.Pairwise fun a b => Key.lt a b = true := by
  have hadmits : ∀ k ∈ l.keys.toList, o.Admits k := by
    intro k hk
    have hkeys : (l.postings sets).keys.toList = (l.postings sets).entries.map Prod.fst := h.lawful.keys_eq
    obtain ⟨e, he, rfl⟩ := List.mem_map.1 (hkeys ▸ hk)
    exact h.lawful.admits e he
  have hranks : l.keys.toList.Pairwise fun a b => o.rank a < o.rank b := h.lawful.pairwise_keys
  exact hranks.imp_of_mem fun ha hb hlt => (o.lt_iff (hadmits _ ha) (hadmits _ hb)).2 hlt

theorem Stands.exists_lookup (h : l.Stands o sets r) (hk : o.Admits k) :
    ∃ ids, l.lookup k sets = .ok ids ∧ ∀ q, q ∈ ids ↔ (o.rank k, q) ∈ r := by
  obtain ⟨found, hlocate⟩ := exists_locate h.sizes k
  exact ⟨_, lookup_eq hlocate sets, fun q => by rw [h.lawful.mem_lookup hk, h.relates]⟩

theorem Stands.exists_range (h : l.Stands o sets r) {lower upper : Option κ} (hlower : ∀ b ∈ lower, o.Admits b)
    (hupper : ∀ b ∈ upper, o.Admits b) : ∃ ids, l.range lower upper sets = .ok ids ∧ ∀ q, q ∈ ids ↔
      ∃ x, (x, q) ∈ r ∧ (∀ b ∈ lower, o.rank b ≤ x) ∧ ∀ b ∈ upper, x ≤ o.rank b := by
  refine ⟨_, range_eq h.sizes lower upper sets, fun q => ?_⟩
  rw [h.lawful.mem_range (fun b hb => .inl (hlower b hb)) (fun b hb => .inl (hupper b hb))]
  refine exists_congr fun x => and_congr (h.relates x q) (and_congr ?_ ?_)
  · exact forall₂_congr fun b hb => forall_prop_of_true (hlower b hb)
  · exact forall₂_congr fun b hb => forall_prop_of_true (hupper b hb)

theorem Stands.range_crossed (h : l.Stands o sets r) {lower upper : κ} (hlower : o.Admits lower)
    (hupper : o.Admits upper) (hlt : Key.lt upper lower = true) :
    l.range (some lower) (some upper) sets = .ok .empty := by
  have hbounds : (∀ b ∈ some lower, o.Admits b) ∧ ∀ b ∈ some upper, o.Admits b := by simp [hlower, hupper]
  obtain ⟨ids, hids, hmem⟩ := h.exists_range hbounds.1 hbounds.2
  rw [hids]
  by_contra hne
  obtain ⟨q, hq⟩ := IdSet.exists_mem_of_ne_empty fun heq => hne (congrArg Except.ok heq)
  obtain ⟨x, -, hle, hge⟩ := (hmem q).1 hq
  exact ((hle lower rfl).trans (hge upper rfl)).not_gt ((o.lt_iff hupper hlower).1 hlt)

theorem Stands.shows (h : l.Stands o sets r) : l.Shows o sets r where
  sizes := h.sizes
  ascending := h.ascending
  filled a ha := by
    have hlt : a < sets.size := h.owns.bounded a ha
    have hfilled := h.owns.filled a ha
    rw [setAt, Array.getElem?_eq_getElem hlt] at hfilled
    exact ⟨sets[a], Array.getElem?_eq_getElem hlt, hfilled⟩
  entries := h.entries
  entryCount := by rw [h.entries, h.lawful.entryCount_eq_card h.relates]
  lookup _ hk := h.exists_lookup hk
  range _ _ hlower hupper := h.exists_range hlower hupper
  crossed _ _ hlower hupper hlt := h.range_crossed hlower hupper hlt

end Ledger

end TripleIndex
