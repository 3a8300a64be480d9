import TripleIndex.Proofs.ValueOrder

/-!
Posting lists stand for a relation between the ranks of keys and the places of identifiers. As long as
the keys ascend strictly and every key has documents, bisection finds the entries that it should find,
so looking up is membership in the relation, and entering and removing change it by one pair.
-/

set_option linter.unusedSectionVars false

namespace TripleIndex

/-- How keys are ranked, among those that have a rank. -/
structure KeyOrder (κ L : Type) [Key κ] [LinearOrder L] where
  Admits : κ → Prop
  rank : κ → L
  lt_iff {a b : κ} : Admits a → Admits b → (Key.lt a b = true ↔ rank a < rank b)
  same_iff {a b : κ} : Admits a → Admits b → (Key.same a b = true ↔ rank a = rank b)

def FieldType.order (t : FieldType) : KeyOrder Scalar Place := ⟨t.Admits, Scalar.sortKey, t.lt_iff, t.same_iff⟩

/-- Halving finds the place where a test stops to hold. -/
theorem partitionPoint_eq {holds : Nat → Bool} {steps low high cut : Nat} (hsteps : high - low ≤ steps)
    (hlow : low ≤ cut) (hhigh : cut ≤ high) (hbefore : ∀ i < cut, holds i = true)
    (hafter : ∀ i, cut ≤ i → i < high → holds i = false) : partitionPoint holds steps low high = cut := by
  -- the cut stays between the bounds, and there are steps enough for all places between them
  induction steps generalizing low high with
  | zero =>
    rw [partitionPoint]
    omega
  | succ steps ih =>
    rw [partitionPoint]
    split
    · next hlt =>
      dsimp only
      split
      · next hholds =>
        have hcut : (low + high) / 2 < cut := by
          by_contra hge
          rw [hafter _ (by omega) (by omega)] at hholds
          cases hholds
        exact ih (by omega) (by omega) hhigh hafter
      · next hholds =>
        have hcut : cut ≤ (low + high) / 2 := by
          by_contra hge
          exact hholds (hbefore _ (by omega))
        exact ih (by omega) hlow hcut fun i hi hlt => hafter i hi (by omega)
    · omega

/-- A list on which a test first holds and then fails falls into two parts. -/
theorem exists_append_of_pairwise {α : Type} {P : α → Prop} {xs : List α}
    (h : xs.Pairwise fun a b => P b → P a) :
    ∃ front back, xs = front ++ back ∧ (∀ x ∈ front, P x) ∧ ∀ x ∈ back, ¬ P x := by
  induction xs with
  | nil => exact ⟨[], [], rfl, by simp, by simp⟩
  | cons x xs ih =>
    rw [List.pairwise_cons] at h
    by_cases hx : P x
    · obtain ⟨front, back, rfl, hfront, hback⟩ := ih h.2
      refine ⟨x :: front, back, rfl, ?_, hback⟩
      intro y hy
      rcases List.mem_cons.1 hy with rfl | hy
      · exact hx
      · exact hfront y hy
    · refine ⟨[], x :: xs, rfl, by simp, ?_⟩
      intro y hy
      rcases List.mem_cons.1 hy with rfl | hy
      · exact hx
      · exact fun hPy => hx (h.1 y hy hPy)

theorem IdSet.ne_empty_of_mem {s : IdSet} {q : Place} (h : q ∈ s) : s ≠ .empty := by
  rintro rfl
  exact IdSet.not_mem_empty q h

theorem IdSet.exists_mem_of_ne_empty {s : IdSet} (h : s ≠ .empty) : ∃ q, q ∈ s := by
  obtain ⟨ids, hids⟩ := s
  cases ids with
  | nil => exact absurd rfl h
  | cons id ids => exact ⟨id.place, List.mem_cons_self⟩

namespace Postings

variable {κ L : Type} [Key κ] [LinearOrder L]

def entries (p : Postings κ) : List (κ × IdSet) := p.keys.toList.zip p.lists.toList

def ofEntries (es : List (κ × IdSet)) : Postings κ := ⟨(es.map Prod.fst).toArray, (es.map Prod.snd).toArray⟩

/-- The keys ascend and have ranks, each of them has documents, and both arrays are equally long. -/
structure Lawful (o : KeyOrder κ L) (p : Postings κ) : Prop where
  sizes : p.lists.size = p.keys.size
  admits : ∀ e ∈ p.entries, o.Admits e.1
  ascending : p.entries.Pairwise fun a b => o.rank a.1 < o.rank b.1
  filled : ∀ e ∈ p.entries, e.2 ≠ .empty

def Relates (o : KeyOrder κ L) (p : Postings κ) (r : L) (q : Place) : Prop :=
  ∃ e ∈ p.entries, o.rank e.1 = r ∧ q ∈ e.2

theorem entries_ofEntries (es : List (κ × IdSet)) : (ofEntries es).entries = es := by
  simp only [entries, ofEntries, List.zip_map', List.map_id']

theorem ofEntries_entries {p : Postings κ} (h : p.lists.size = p.keys.size) : ofEntries p.entries = p := by
  obtain ⟨keys, lists⟩ := p
  replace h : lists.toList.length = keys.toList.length := h
  simp only [ofEntries, entries]
  rw [List.map_fst_zip (Nat.le_of_eq h.symm), List.map_snd_zip (Nat.le_of_eq h)]

/-! ## Bisection -/

variable {front back : List (κ × IdSet)} {k : κ}

theorem keyAt_ofEntries (es : List (κ × IdSet)) (test : κ → Bool) (i : Nat) :
    (ofEntries es).keyAt test i = (es[i]?.map fun e => test e.1).getD false := by
  simp only [keyAt, ofEntries, List.getElem?_toArray, List.getElem?_map]
  cases es[i]? <;> rfl

theorem partitionPoint_keyAt (test : κ → Bool) (hfront : ∀ e ∈ front, test e.1 = true)
    (hback : ∀ e ∈ back, test e.1 = false) :
    partitionPoint ((ofEntries (front ++ back)).keyAt test) (ofEntries (front ++ back)).size 0
      (ofEntries (front ++ back)).size = front.length := by
  have hsize : (ofEntries (front ++ back)).size = front.length + back.length := by
    simp [size, ofEntries]
  refine partitionPoint_eq (by omega) (by omega) (by omega) ?_ ?_
  · intro i hi
    rw [keyAt_ofEntries, List.getElem?_append_left hi, List.getElem?_eq_getElem hi]
    exact hfront _ (List.getElem_mem hi)
  · intro i hi hlt
    rw [keyAt_ofEntries, List.getElem?_append_right hi, List.getElem?_eq_getElem (by omega)]
    exact hback _ (List.getElem_mem _)

theorem lowerBound_ofEntries (hfront : ∀ e ∈ front, Key.lt e.1 k = true)
    (hback : ∀ e ∈ back, Key.lt e.1 k = false) :
    (ofEntries (front ++ back)).lowerBound k = front.length :=
  partitionPoint_keyAt _ hfront hback

theorem upperBound_ofEntries (hfront : ∀ e ∈ front, Key.lt k e.1 = false)
    (hback : ∀ e ∈ back, Key.lt k e.1 = true) :
    (ofEntries (front ++ back)).upperBound k = front.length := by
  refine partitionPoint_keyAt (fun key => !Key.lt k key) ?_ ?_
  · intro e he
    simp [hfront e he]
  · intro e he
    simp [hback e he]

theorem find?_eq_some {e : κ × IdSet} (hfront : ∀ x ∈ front, Key.lt x.1 k = true)
    (hback : ∀ x ∈ e :: back, Key.lt x.1 k = false) (he : Key.same e.1 k = true) :
    (ofEntries (front ++ e :: back)).find? k = some front.length := by
  simp only [find?, lowerBound_ofEntries hfront hback, keyAt_ofEntries]
  simp [he]

theorem find?_eq_none (hfront : ∀ x ∈ front, Key.lt x.1 k = true)
    (hback : ∀ x ∈ back, Key.lt x.1 k = false) (hsame : ∀ x ∈ back, Key.same x.1 k = false) :
    (ofEntries (front ++ back)).find? k = none := by
  simp only [find?, lowerBound_ofEntries hfront hback, keyAt_ofEntries]
  cases back with
  | nil => simp
  | cons e back => simp [hsame e List.mem_cons_self]

theorem listAt_ofEntries (e : κ × IdSet) :
    (ofEntries (front ++ e :: back)).listAt front.length = e.2 := by
  simp [listAt, ofEntries]

/-! ## Entering and removing -/

theorem insertIdx_append {α : Type} (xs ys : List α) (x : α) :
    (xs ++ ys).insertIdx xs.length x = xs ++ x :: ys := by
  induction xs with
  | nil => rfl
  | cons y xs ih => simpa using ih

theorem add_of_find?_eq_some {e : κ × IdSet} (id : DocId)
    (hfind : (ofEntries (front ++ e :: back)).find? k = some front.length) :
    (ofEntries (front ++ e :: back)).add k id = ofEntries (front ++ (e.1, e.2.insert id) :: back) := by
  rw [add, hfind]
  simp [ofEntries, listAt]

theorem add_of_find?_eq_none (id : DocId) (hfind : (ofEntries (front ++ back)).find? k = none)
    (hbound : (ofEntries (front ++ back)).lowerBound k = front.length) :
    (ofEntries (front ++ back)).add k id = ofEntries (front ++ (k, .ofList [id]) :: back) := by
  rw [add, hfind]
  simp only [enterList, enterKey, hbound]
  have hkeys := insertIdx_append (front.map Prod.fst) (back.map Prod.fst) k
  have hlists := insertIdx_append (front.map Prod.snd) (back.map Prod.snd) (IdSet.ofList [id])
  rw [List.length_map] at hkeys hlists
  simp [ofEntries, hkeys, hlists]

theorem remove_of_find?_eq_some {e : κ × IdSet} (id : DocId)
    (hfind : (ofEntries (front ++ e :: back)).find? k = some front.length) :
    (ofEntries (front ++ e :: back)).remove k id =
      if (e.2.erase id).isEmpty then ofEntries (front ++ back)
      else ofEntries (front ++ (e.1, e.2.erase id) :: back) := by
  rw [remove, hfind]
  simp only [listAt_ofEntries]
  split
  · simp [ofEntries, List.eraseIdx_append_of_length_le]
  · simp [ofEntries]

section Lawful

variable {o : KeyOrder κ L} {p : Postings κ}

theorem lawful_ofEntries_iff {es : List (κ × IdSet)} : (ofEntries es).Lawful o ↔
    (∀ e ∈ es, o.Admits e.1) ∧ (es.Pairwise fun a b => o.rank a.1 < o.rank b.1) ∧
      ∀ e ∈ es, e.2 ≠ .empty := by
  constructor
  · rintro ⟨-, hadmits, hascending, hfilled⟩
    rw [entries_ofEntries] at hadmits hascending hfilled
    exact ⟨hadmits, hascending, hfilled⟩
  · rintro ⟨hadmits, hascending, hfilled⟩
    refine ⟨by simp [ofEntries], ?_, ?_, ?_⟩ <;> rwa [entries_ofEntries]

theorem relates_ofEntries {es : List (κ × IdSet)} {r : L} {q : Place} :
    (ofEntries es).Relates o r q ↔ ∃ e ∈ es, o.rank e.1 = r ∧ q ∈ e.2 := by
  rw [Relates, entries_ofEntries]

theorem relates_middle {e : κ × IdSet} {r : L} {q : Place} :
    (ofEntries (front ++ e :: back)).Relates o r q ↔
      (o.rank e.1 = r ∧ q ∈ e.2) ∨ (ofEntries (front ++ back)).Relates o r q := by
  simp only [relates_ofEntries, List.mem_append, List.mem_cons]
  constructor
  · rintro ⟨x, hx | rfl | hx, hr, hq⟩
    · exact .inr ⟨x, .inl hx, hr, hq⟩
    · exact .inl ⟨hr, hq⟩
    · exact .inr ⟨x, .inr hx, hr, hq⟩
  · rintro (⟨hr, hq⟩ | ⟨x, hx, hr, hq⟩)
    · exact ⟨e, .inr (.inl rfl), hr, hq⟩
    · exact ⟨x, hx.imp_right .inr, hr, hq⟩

theorem not_relates_between {r : L} (hfront : ∀ x ∈ front, o.rank x.1 < r)
    (hback : ∀ x ∈ back, r < o.rank x.1) (q : Place) : ¬ (ofEntries (front ++ back)).Relates o r q := by
  rw [relates_ofEntries]
  rintro ⟨x, hx, hxr, -⟩
  rcases List.mem_append.1 hx with hx | hx
  · exact (hfront x hx).ne hxr
  · exact (hback x hx).ne' hxr

theorem lawful_middle_iff {e : κ × IdSet} :
    (ofEntries (front ++ e :: back)).Lawful o ↔ (ofEntries (front ++ back)).Lawful o ∧ o.Admits e.1 ∧
      (∀ x ∈ front, o.rank x.1 < o.rank e.1) ∧ (∀ x ∈ back, o.rank e.1 < o.rank x.1) ∧ e.2 ≠ .empty := by
  simp only [lawful_ofEntries_iff, List.forall_mem_append, List.forall_mem_cons, List.pairwise_append,
    List.pairwise_cons]
  constructor
  · rintro ⟨⟨hfa, hea, hba⟩, ⟨hf, ⟨heb, hb⟩, hcross⟩, hff, hef, hbf⟩
    exact ⟨⟨⟨hfa, hba⟩, ⟨hf, hb, fun x hx => (hcross x hx).2⟩, hff, hbf⟩, hea,
      fun x hx => (hcross x hx).1, heb, hef⟩
  · rintro ⟨⟨⟨hfa, hba⟩, ⟨hf, hb, hcross⟩, hff, hbf⟩, hea, hfe, heb, hef⟩
    exact ⟨⟨hfa, hea, hba⟩, ⟨hf, ⟨heb, hb⟩, fun x hx => ⟨hfe x hx, hcross x hx⟩⟩, hff, hef, hbf⟩

/-- An admitted key either has an entry or a place between two parts where its entry belongs. -/
theorem Lawful.locate (h : p.Lawful o) (hk : o.Admits k) :
    (∃ front e back, p = ofEntries (front ++ e :: back) ∧ (∀ x ∈ front, o.rank x.1 < o.rank k) ∧
      o.rank e.1 = o.rank k ∧ (∀ x ∈ back, o.rank k < o.rank x.1) ∧ p.find? k = some front.length) ∨
    (∃ front back, p = ofEntries (front ++ back) ∧ (∀ x ∈ front, o.rank x.1 < o.rank k) ∧
      (∀ x ∈ back, o.rank k < o.rank x.1) ∧ p.find? k = none ∧ p.lowerBound k = front.length) := by
  obtain ⟨es, hes⟩ : ∃ es, p.entries = es := ⟨_, rfl⟩
  have hp : p = ofEntries es := by rw [← hes, ofEntries_entries h.sizes]
  have hadmits := hes ▸ h.admits
  have hascending := hes ▸ h.ascending
  obtain ⟨front, back, rfl, hfront, hback⟩ :=
    exists_append_of_pairwise (P := fun e => o.rank e.1 < o.rank k)
      (hascending.imp fun hab hb => hab.trans hb)
  have hlt : ∀ x ∈ front, Key.lt x.1 k = true := fun x hx =>
    (o.lt_iff (hadmits x (List.mem_append_left _ hx)) hk).2 (hfront x hx)
  have hge : ∀ x ∈ back, Key.lt x.1 k = false := fun x hx =>
    Bool.eq_false_iff.2 fun hxk =>
      hback x hx ((o.lt_iff (hadmits x (List.mem_append_right _ hx)) hk).1 hxk)
  -- the keys ascend, so of those that are not below the key only the first can equal it
  by_cases hhead : ∃ e rest, back = e :: rest ∧ o.rank e.1 = o.rank k
  · obtain ⟨e, rest, rfl, he⟩ := hhead
    have hrest : ∀ x ∈ rest, o.rank k < o.rank x.1 := fun x hx =>
      he ▸ (List.pairwise_cons.1 (List.pairwise_append.1 hascending).2.1).1 x hx
    have hsame := (o.same_iff (hadmits e (by simp)) hk).2 he
    exact .inl ⟨front, e, rest, hp, hfront, he, hrest, hp ▸ find?_eq_some hlt hge hsame⟩
  · have hgt : ∀ x ∈ back, o.rank k < o.rank x.1 := by
      cases back with
      | nil => simp
      | cons e rest =>
        have he : o.rank k < o.rank e.1 := lt_of_le_of_ne (not_lt.1 (hback e List.mem_cons_self))
          fun heq => hhead ⟨e, rest, rfl, heq.symm⟩
        intro x hx
        rcases List.mem_cons.1 hx with rfl | hx
        · exact he
        · exact he.trans ((List.pairwise_cons.1 (List.pairwise_append.1 hascending).2.1).1 x hx)
    have hsame : ∀ x ∈ back, Key.same x.1 k = false := fun x hx =>
      Bool.eq_false_iff.2 fun hxk =>
        (hgt x hx).ne' ((o.same_iff (hadmits x (List.mem_append_right _ hx)) hk).1 hxk)
    exact .inr ⟨front, back, hp, hfront, hgt, hp ▸ find?_eq_none hlt hge hsame,
      hp ▸ lowerBound_ofEntries hlt hge⟩

theorem Lawful.mem_lookup (h : p.Lawful o) (hk : o.Admits k) (q : Place) :
    q ∈ p.lookup k ↔ p.Relates o (o.rank k) q := by
  rcases h.locate hk with ⟨front, e, back, rfl, hfront, he, hback, hfind⟩ |
    ⟨front, back, rfl, hfront, hback, hfind, -⟩
  · simp only [lookup, hfind, listAt_ofEntries, relates_middle]
    have hnone := not_relates_between hfront hback q
    exact ⟨fun hq => .inl ⟨he, hq⟩, fun hq => (hq.resolve_right hnone).2⟩
  · simp only [lookup, hfind]
    have hnone := not_relates_between hfront hback q
    exact ⟨fun hq => absurd hq (IdSet.not_mem_empty q), fun hq => absurd hq hnone⟩

/-- Entering a document adds one pair to the relation. -/
theorem Lawful.add (h : p.Lawful o) (hk : o.Admits k) (id : DocId) : (p.add k id).Lawful o ∧
    ∀ r q, (p.add k id).Relates o r q ↔ p.Relates o r q ∨ r = o.rank k ∧ q = id.place := by
  rcases h.locate hk with ⟨front, e, back, rfl, hfront, he, hback, hfind⟩ |
    ⟨front, back, rfl, hfront, hback, hfind, hbound⟩
  · rw [add_of_find?_eq_some id hfind]
    obtain ⟨hrest, hadmits, hlt, hgt, -⟩ := lawful_middle_iff.1 h
    have hinsert : e.2.insert id ≠ .empty :=
      IdSet.ne_empty_of_mem ((IdSet.mem_insert ..).2 (.inl rfl))
    refine ⟨lawful_middle_iff.2 ⟨hrest, hadmits, hlt, hgt, hinsert⟩, fun r q => ?_⟩
    rw [relates_middle, relates_middle, IdSet.mem_insert, he]
    constructor
    · rintro (⟨rfl, rfl | hq⟩ | hr)
      · exact .inr ⟨rfl, rfl⟩
      · exact .inl (.inl ⟨rfl, hq⟩)
      · exact .inl (.inr hr)
    · rintro ((⟨rfl, hq⟩ | hr) | ⟨rfl, rfl⟩)
      · exact .inl ⟨rfl, .inr hq⟩
      · exact .inr hr
      · exact .inl ⟨rfl, .inl rfl⟩
  · rw [add_of_find?_eq_none id hfind hbound]
    have hsingle : ∀ q, q ∈ IdSet.ofList [id] ↔ q = id.place := fun q => by
      simp [IdSet.mem_ofList, places]
    have hne : IdSet.ofList [id] ≠ .empty := IdSet.ne_empty_of_mem ((hsingle _).2 rfl)
    refine ⟨lawful_middle_iff.2 ⟨h, hk, hfront, hback, hne⟩, fun r q => ?_⟩
    rw [relates_middle, hsingle, or_comm, eq_comm (a := o.rank k)]

theorem Lawful.remove (h : p.Lawful o) (hk : o.Admits k) (id : DocId) : (p.remove k id).Lawful o ∧
    ∀ r q, (p.remove k id).Relates o r q ↔ p.Relates o r q ∧ ¬ (r = o.rank k ∧ q = id.place) := by
  rcases h.locate hk with ⟨front, e, back, rfl, hfront, he, hback, hfind⟩ |
    ⟨front, back, rfl, hfront, hback, hfind, -⟩
  · have hnone := not_relates_between hfront hback
    obtain ⟨hrest, hadmits, hlt, hgt, -⟩ := lawful_middle_iff.1 h
    have hother : ∀ r q, (ofEntries (front ++ back)).Relates o r q → r ≠ o.rank k := by
      rintro r q hr rfl
      exact hnone q hr
    -- an entry goes with its last document
    rw [remove_of_find?_eq_some id hfind]
    split
    · next hempty =>
      have hgone : ∀ q ∈ e.2, q = id.place := by
        intro q hq
        by_contra hne
        have hmem : q ∈ e.2.erase id := (IdSet.mem_erase ..).2 ⟨hq, hne⟩
        exact IdSet.ne_empty_of_mem hmem ((IdSet.isEmpty_iff _).1 hempty)
      refine ⟨hrest, fun r q => ?_⟩
      rw [relates_middle, he]
      constructor
      · exact fun hr => ⟨.inr hr, fun hrq => hother r q hr hrq.1⟩
      · rintro ⟨⟨rfl, hq⟩ | hr, hnot⟩
        · exact absurd ⟨rfl, hgone q hq⟩ hnot
        · exact hr
    · next hempty =>
      have hne : e.2.erase id ≠ .empty := fun heq => hempty ((IdSet.isEmpty_iff _).2 heq)
      refine ⟨lawful_middle_iff.2 ⟨hrest, hadmits, hlt, hgt, hne⟩, fun r q => ?_⟩
      rw [relates_middle, relates_middle, IdSet.mem_erase, he]
      constructor
      · rintro (⟨rfl, hq, hne⟩ | hr)
        · exact ⟨.inl ⟨rfl, hq⟩, fun hrq => hne hrq.2⟩
        · exact ⟨.inr hr, fun hrq => hother r q hr hrq.1⟩
      · rintro ⟨⟨rfl, hq⟩ | hr, hnot⟩
        · exact .inl ⟨rfl, hq, fun heq => hnot ⟨rfl, heq⟩⟩
        · exact .inr hr
  · have hnone := not_relates_between hfront hback
    rw [Postings.remove, hfind]
    refine ⟨h, fun r q => ⟨fun hr => ⟨hr, ?_⟩, fun hr => hr.1⟩⟩
    rintro ⟨rfl, -⟩
    exact hnone q hr

end Lawful

end Postings

end TripleIndex
