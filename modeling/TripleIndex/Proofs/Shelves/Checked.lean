import TripleIndex.Postings.Shelf.Checked
import TripleIndex.Proofs.Shelves.Relations

/-!
Posting lists over values of any type, in place. They are asked and changed as the lists with the sets
themselves are, and refuse the same: values that cannot be compared, keys without documents, documents that are
no identifiers. Among values of one type there is nothing to refuse.
-/

namespace TripleIndex

theorem FieldType.Admits.comparable {t : FieldType} {a b : Scalar} (ha : t.Admits a) (hb : t.Admits b) :
    a.comparable b = true := by
  cases ha <;> cases hb <;> rfl

namespace Ledger

variable {l : Ledger Scalar} {sets : Array IdSet} {k : Scalar}

/-! ## Lists with the sets themselves -/

theorem findChecked_postings (l : Ledger Scalar) (k : Scalar) (sets : Array IdSet) :
    (l.postings sets).findChecked k = do
      (l.postings sets).check k false
      return (← l.locate k).map Prod.fst := by
  have hsize : (l.postings sets).lists.size = l.sets.size := Array.size_map
  rw [Postings.findChecked]
  refine congrArg ((l.postings sets).check k false >>= ·) (funext fun _ => ?_)
  cases hfind : l.find? k with
  | none =>
    have hnone : (l.postings sets).find? k = none := hfind
    rw [locate, hfind, hnone]
    rfl
  | some i =>
    have hsome : (l.postings sets).find? k = some i := hfind
    simp only [locate, hfind, hsome, Postings.checkLists, hsize]
    rcases Nat.lt_or_ge i l.sets.size with hi | hi
    · rw [Array.getElem?_eq_getElem hi, if_neg (by simp [Nat.not_lt.2 (Nat.succ_le_of_lt hi)])]
      rfl
    · rw [Array.getElem?_eq_none hi, if_pos (by simp [Nat.lt_succ_of_le hi])]
      rfl

theorem lookupChecked_eq (l : Ledger Scalar) (k : Scalar) (sets : Array IdSet) :
    l.lookupChecked k sets = (l.postings sets).lookupChecked k := by
  rw [lookupChecked, Postings.lookupChecked, findChecked_postings, bind_assoc]
  refine congrArg ((l.postings sets).check k false >>= ·) (funext fun _ => ?_)
  cases hlocate : l.locate k with
  | error f =>
    rw [lookup, hlocate]
    rfl
  | ok found =>
    rw [lookup_eq hlocate]
    rfl

theorem rangeChecked_eq (l : Ledger Scalar) (lower upper : Option Scalar) (sets : Array IdSet) :
    l.rangeChecked lower upper sets = (l.postings sets).rangeChecked lower upper := by
  have hsize : (l.postings sets).lists.size = l.sets.size := Array.size_map
  have hrange : l.range lower upper sets = do
      (l.postings sets).checkLists ((l.postings sets).rangeStart lower) ((l.postings sets).rangeStop upper)
      return (l.postings sets).range lower upper := by
    rw [range, Postings.checkLists, hsize]
    split <;> rfl
  rw [rangeChecked, hrange]
  rfl

/-- A document is entered as in the list with the sets themselves, and if that is refused, as far as it is
entered there. -/
theorem Owns.addChecked (h : l.Owns sets) (k : Scalar) (id : JsonValue) :
    ∃ changed outcome, l.addChecked k id sets = (changed, outcome) ∧ l.Revises sets changed.1 changed.2 ∧
      (l.postings sets).addChecked k id = (changed.1.postings changed.2, outcome) := by
  rw [Ledger.addChecked, Postings.addChecked, findChecked_postings]
  cases (l.postings sets).check k false with
  | error f => exact ⟨(l, sets), .error f, rfl, h.revises rfl, rfl⟩
  | ok =>
    cases hlocate : l.locate k with
    | error f => exact ⟨(l, sets), .error f, rfl, h.revises rfl, rfl⟩
    | ok found =>
      cases DocId.ofValue id with
      | ok id =>
        obtain ⟨changed, hadd, hperforms⟩ := h.exists_add hlocate id
        refine ⟨changed, .ok (), ?_, hperforms.revises, ?_⟩
        · cases found <;> simp only [hadd]
        · rw [hperforms.postings]
          cases found <;> rfl
      | error f =>
        cases found with
        -- the key is there by now, and has no set
        | none => exact ⟨(l.enterKey k, sets), .error f, rfl, h.revises rfl, rfl⟩
        | some at_ => exact ⟨(l, sets), .error f, rfl, h.revises rfl, rfl⟩

/-- A document is removed as from the list with the sets themselves, or that is refused as there. -/
theorem Owns.removeChecked (h : l.Owns sets) (k : Scalar) (id : JsonValue) :
    (∃ f, l.removeChecked k id sets = .error f ∧ (l.postings sets).removeChecked k id = .error f) ∨
      ∃ changed, l.removeChecked k id sets = .ok changed ∧ l.Revises sets changed.1 changed.2 ∧
        (l.postings sets).removeChecked k id = .ok (changed.1.postings changed.2) := by
  rw [Ledger.removeChecked, Postings.removeChecked, findChecked_postings]
  cases (l.postings sets).check k false with
  | error f => exact .inl ⟨f, rfl, rfl⟩
  | ok =>
    cases hlocate : l.locate k with
    | error f => exact .inl ⟨f, rfl, rfl⟩
    | ok found =>
      cases found with
      | none => exact .inr ⟨(l, sets), rfl, h.revises rfl, rfl⟩
      | some at_ =>
        cases DocId.ofValue id with
        | error f => exact .inl ⟨f, rfl, rfl⟩
        | ok id =>
          obtain ⟨changed, hremove, hperforms⟩ := h.exists_remove hlocate id
          refine .inr ⟨changed, hremove, hperforms.revises, ?_⟩
          rw [hperforms.postings]
          rfl

end Ledger

/-! ## Values of one type -/

variable {t : FieldType}

theorem Postings.Lawful.check_eq {p : Postings Scalar} (h : p.Lawful t.order) {k : Scalar} (hk : t.Admits k)
    (onLeft : Bool) : p.check k onLeft = .ok () := by
  rw [check]
  split
  · rfl
  · next key hkey =>
    have hmem : key ∈ p.entries.map Prod.fst := h.keys_eq ▸ Array.mem_toList_iff.2 (Array.mem_of_getElem? hkey)
    obtain ⟨e, he, rfl⟩ := List.mem_map.1 hmem
    have hcomparable : e.1.comparable k = true := FieldType.Admits.comparable (h.admits e he) hk
    rw [if_pos hcomparable]

namespace Ledger

variable {l : Ledger Scalar} {sets : Array IdSet} {r : Finset (Place × Place)} {k : Scalar}

theorem Stands.lookupChecked_eq (h : l.Stands t.order sets r) (hk : t.Admits k) :
    l.lookupChecked k sets = l.lookup k sets := by
  rw [lookupChecked, h.lawful.check_eq hk]
  rfl

theorem Stands.rangeChecked_eq (h : l.Stands t.order sets r) {lower upper : Option Scalar}
    (hlower : ∀ b ∈ lower, t.Admits b) (hupper : ∀ b ∈ upper, t.Admits b) :
    l.rangeChecked lower upper sets = l.range lower upper sets := by
  have hbound : ∀ (onLeft : Bool) (bound : Option Scalar), (∀ b ∈ bound, t.Admits b) →
      (l.postings sets).checkBound onLeft bound = .ok () := by
    intro onLeft bound hbound
    cases bound with
    | none => rfl
    | some b => exact h.lawful.check_eq (hbound b rfl) onLeft
  rw [rangeChecked, hbound false lower hlower, hbound true upper hupper]
  rfl

theorem Stands.addChecked_eq (h : l.Stands t.order sets r) (hk : t.Admits k) (id : DocId) :
    ∃ changed, l.add k id sets = .ok changed ∧ l.addChecked k (.scalar id) sets = (changed, .ok ()) := by
  obtain ⟨found, hlocate⟩ := exists_locate h.sizes k
  obtain ⟨changed, hadd, -⟩ := h.add hk id
  refine ⟨changed, hadd, ?_⟩
  rw [addChecked, h.lawful.check_eq hk, hlocate]
  cases found <;> simp only [DocId.ofValue, hadd]

theorem Stands.removeChecked_eq (h : l.Stands t.order sets r) (hk : t.Admits k) (id : DocId) :
    l.removeChecked k (.scalar id) sets = l.remove k id sets := by
  obtain ⟨found, hlocate⟩ := exists_locate h.sizes k
  rw [removeChecked, h.lawful.check_eq hk, hlocate]
  cases found with
  | none => exact (remove_of_unknown hlocate).symm
  | some at_ => rfl

end Ledger

end TripleIndex
