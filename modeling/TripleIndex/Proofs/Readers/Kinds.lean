import TripleIndex.Proofs.Join.Candidates

/-!
Identifiers of one kind. All documents of an index are filed under texts, or all under numbers, as the type of
the field for identifiers has it. The posting lists hold only what documents have been filed under, whether
or not they are in step, so everything that a query selects can be put in order.
-/

namespace TripleIndex

variable {kind : Bool}

/-- The identifiers of a set are all texts, or all numbers. -/
def IdSet.IsOfKind (kind : Bool) (s : IdSet) : Prop := ∀ q ∈ s, q.isText? = some kind

namespace IdSet

theorem isOfKind_empty (kind : Bool) : empty.IsOfKind kind := fun q hq => absurd hq (not_mem_empty q)

theorem IsOfKind.insert {s : IdSet} (h : s.IsOfKind kind) {id : DocId} (hid : id.place.isText? = some kind) :
    (s.insert id).IsOfKind kind := by
  intro q hq
  rcases (mem_insert id q s).1 hq with rfl | hq
  · exact hid
  · exact h q hq

theorem IsOfKind.erase {s : IdSet} (h : s.IsOfKind kind) (id : DocId) : (s.erase id).IsOfKind kind :=
  fun q hq => h q ((mem_erase q id s).1 hq).1

theorem IsOfKind.comparable {s : IdSet} (h : s.IsOfKind kind) {mark : DocId}
    (hmark : mark.place.isText? = some kind) : ∀ id ∈ s.toList, mark.comparable id = true := fun id hid =>
  comparable_of_isText? hmark (h id.place (List.mem_map_of_mem hid))

end IdSet

/-! ## Posting lists -/

def Postings.IsOfKind (kind : Bool) (p : Postings Scalar) : Prop := ∀ s ∈ p.lists, s.IsOfKind kind

namespace Postings

variable {p : Postings Scalar}

theorem isOfKind_empty (kind : Bool) : (empty : Postings Scalar).IsOfKind kind := fun s hs =>
  absurd hs (Array.not_mem_empty s)

theorem IsOfKind.listAt (h : p.IsOfKind kind) (i : Nat) : (p.listAt i).IsOfKind kind := by
  unfold Postings.listAt
  cases hlist : p.lists[i]? with
  | none => exact IdSet.isOfKind_empty kind
  | some s => exact h s (Array.mem_of_getElem? hlist)

theorem IsOfKind.setList (h : p.IsOfKind kind) (i : Nat) {s : IdSet} (hs : s.IsOfKind kind) :
    ({ p with lists := p.lists.setIfInBounds i s } : Postings Scalar).IsOfKind kind := by
  intro t ht
  rcases Array.mem_or_eq_of_mem_setIfInBounds ht with ht | rfl
  · exact h t ht
  · exact hs

theorem IsOfKind.enterList (h : p.IsOfKind kind) (i : Nat) {s : IdSet} (hs : s.IsOfKind kind) :
    (p.enterList i s).IsOfKind kind := by
  intro t ht
  have hplace : min i p.lists.size ≤ p.lists.size := Nat.min_le_right ..
  rw [Postings.enterList, Array.insertIdxIfInBounds, dif_pos hplace, Array.mem_insertIdx] at ht
  rcases ht with rfl | ht
  · exact hs
  · exact h t ht

theorem IsOfKind.add (h : p.IsOfKind kind) (k : Scalar) {id : DocId} (hid : id.place.isText? = some kind) :
    (p.add k id).IsOfKind kind := by
  unfold Postings.add
  split
  · next i _ => exact h.setList i ((h.listAt i).insert hid)
  · exact IsOfKind.enterList (p := p.enterKey k) h _ ((IdSet.isOfKind_empty kind).insert hid)

theorem IsOfKind.remove (h : p.IsOfKind kind) (k : Scalar) (id : DocId) : (p.remove k id).IsOfKind kind := by
  unfold Postings.remove
  split
  · exact h
  · next i _ =>
    dsimp only
    split
    · intro t ht
      have ht : t ∈ p.lists.eraseIdxIfInBounds i := ht
      rw [Array.eraseIdxIfInBounds] at ht
      split at ht
      · exact h t (Array.mem_of_mem_eraseIdx ht)
      · exact h t ht
    · exact h.setList i ((h.listAt i).erase id)

theorem IsOfKind.lookup (h : p.IsOfKind kind) (k : Scalar) : (p.lookup k).IsOfKind kind := by
  unfold Postings.lookup
  split
  · exact h.listAt _
  · exact IdSet.isOfKind_empty kind

theorem IsOfKind.range (h : p.IsOfKind kind) (lower upper : Option Scalar) :
    (p.range lower upper).IsOfKind kind := by
  intro q hq
  rw [Postings.range, Postings.slice, ← Array.foldl_toList, mem_foldl_union] at hq
  rcases hq with hq | ⟨s, hs, hq⟩
  · exact absurd hq (IdSet.not_mem_empty q)
  · rw [Array.toList_extract, List.extract_eq_take_drop] at hs
    exact h s (Array.mem_toList_iff.1 (List.mem_of_mem_drop (List.mem_of_mem_take hs))) q hq

end Postings

/-! ## Indexes -/

namespace Index

variable {ix : Index} {schema : Schema}

/-- Everything in the posting lists is of one kind. -/
def ListsKind (kind : Bool) (ix : Index) : Prop := ∀ e ∈ ix.postings, e.2.IsOfKind kind

theorem ListsKind.refile (h : ix.ListsKind kind) (documents : Table Place Filed) :
    ({ ix with documents := documents } : Index).ListsKind kind := h

theorem ListsKind.modifyAll (h : ix.ListsKind kind) {change : Scalar → Postings Scalar → Postings Scalar}
    (hchange : ∀ v p, p.IsOfKind kind → (change v p).IsOfKind kind) (d : Document) :
    (ix.modifyAll change d).ListsKind kind := by
  unfold Index.modifyAll
  induction d generalizing ix with
  | nil => exact h
  | cons entry d ih =>
    refine ih fun e he => ?_
    obtain ⟨⟨name, p⟩, hp, rfl⟩ := List.mem_map.1 he
    dsimp only
    split
    · exact hchange entry.2 p (h _ hp)
    · exact h _ hp

theorem ListsKind.enter (h : ix.ListsKind kind) {id : DocId} (hid : id.place.isText? = some kind) (d : Document) :
    (ix.enter id d).ListsKind kind := by
  rw [enter_eq]
  exact h.modifyAll (fun v p hp => hp.add v hid) d

theorem ListsKind.withdraw (h : ix.ListsKind kind) (id : DocId) (d : Document) :
    (ix.withdraw id d).ListsKind kind := by
  rw [withdraw_eq]
  exact h.modifyAll (fun v p hp => hp.remove v id) d

theorem ListsKind.put (h : ix.ListsKind kind) {id : DocId} (hid : id.place.isText? = some kind) (d : Document) :
    (ix.put id d).ListsKind kind := by
  have hcleared : (ix.cleared id).ListsKind kind := by
    unfold Index.cleared
    split
    · exact h.withdraw id _
    · exact h
  exact (hcleared.refile _).enter hid d

theorem ListsKind.delete (h : ix.ListsKind kind) (f : Filter) : (ix.delete f).1.ListsKind kind := by
  have hremoved : ∀ ids, (ix.removeAll ids).1.ListsKind kind :=
    removeAll_induction h fun _ id filed h _ => (h.refile _).withdraw id filed.fields
  unfold Index.delete
  split
  · exact h
  · next selected _ =>
    split
    · next after heq => exact (congrArg Prod.fst heq) ▸ hremoved selected.toList
    · next after e heq => exact (congrArg Prod.fst heq) ▸ hremoved selected.toList

theorem ListsKind.select (h : ix.ListsKind kind) {c : Clause} {s : IdSet} (hs : ix.select c = .ok s) :
    s.IsOfKind kind := by
  unfold Index.select at hs
  split at hs
  · cases hs
  · next p hp =>
    have hlists : p.IsOfKind kind := h _ (Table.mem_of_lookup hp)
    cases c with
    | term field value =>
      obtain ⟨v, -, hs⟩ := bind_eq_ok.1 hs
      cases hs
      exact hlists.lookup v
    | range field lower upper =>
      obtain ⟨l, -, hs⟩ := bind_eq_ok.1 hs
      obtain ⟨u, -, hs⟩ := bind_eq_ok.1 hs
      cases hs
      exact hlists.range l u

end Index

end TripleIndex
