import TripleIndex.Proofs.Shelves.Relations

/-!
Any number of posting lists. Each stands for its own pairs, and no two have a set in common, so a change of
one of them leaves the others as they are. One call keeps this, and so does every run of calls: the pairs of
each list are those that the calls on it have put in and not taken out again, from the pairs that it was
copied with.
-/

namespace TripleIndex

namespace Shelf

variable {κ : Type} {s t u : Shelf κ} {l l' : Ledger κ} {sets : Array IdSet} {a : Nat}

/-- The list at a place, with its count and its sets, is the same in two states. -/
def Spares (s t : Shelf κ) (a : Nat) : Prop :=
  ∀ l, s.ledgers[a]? = some l → t.ledgers[a]? = some l ∧ l.postings t.sets = l.postings s.sets

theorem Spares.refl (s : Shelf κ) (a : Nat) : s.Spares s a := fun _ hl => ⟨hl, rfl⟩

theorem Spares.trans (h : s.Spares t a) (h' : t.Spares u a) : s.Spares u a := by
  intro l hl
  obtain ⟨ht, hpostings⟩ := h l hl
  obtain ⟨hu, hpostings'⟩ := h' l ht
  exact ⟨hu, hpostings'.trans hpostings⟩

/-- One list changes or is new. The others are as they were, and so are their sets, which it has none of. -/
structure Alters (s t : Shelf κ) (a : Nat) (l : Ledger κ) : Prop where
  list : t.ledgers[a]? = some l
  lists : ∀ b, b ≠ a → t.ledgers[b]? = s.ledgers[b]?
  grows : s.sets.size ≤ t.sets.size
  sets : ∀ (b : Nat) (m : Ledger κ), b ≠ a → s.ledgers[b]? = some m → ∀ x ∈ m.sets,
    t.sets[x]? = s.sets[x]? ∧ x ∉ l.sets

theorem Alters.spares (h : s.Alters t a l) {b : Nat} (hb : b ≠ a) : s.Spares t b := fun m hm =>
  ⟨(h.lists b hb).trans hm, Ledger.postings_congr fun x hx => (h.sets b m hb hm x hx).1⟩

variable {L : Type} [Key κ] [LinearOrder L] {o : KeyOrder κ L} {r r' : Finset (L × Place)}
  {rs rs' : List (Finset (L × Place))}

/-- Each list stands for its own pairs, and no two of them have a set in common. -/
structure Stands (o : KeyOrder κ L) (s : Shelf κ) (rs : List (Finset (L × Place))) : Prop where
  size : s.ledgers.size = rs.length
  stands : ∀ (a : Nat) (l : Ledger κ) r, s.ledgers[a]? = some l → rs[a]? = some r → l.Stands o s.sets r
  apart : ∀ (a b : Nat) (l m : Ledger κ), a ≠ b → s.ledgers[a]? = some l → s.ledgers[b]? = some m →
    ∀ x ∈ l.sets, x ∉ m.sets

theorem stands_empty : (empty : Shelf κ).Stands o [] where
  size := rfl
  stands a l r hl := by simp [empty] at hl
  apart a b l m _ hl := by simp [empty] at hl

theorem Stands.exists_pairs (h : s.Stands o rs) (hl : s.ledgers[a]? = some l) :
    ∃ r, rs[a]? = some r ∧ l.Stands o s.sets r := by
  have ha : a < rs.length := h.size ▸ (Array.getElem?_eq_some_iff.1 hl).1
  exact ⟨rs[a], List.getElem?_eq_getElem ha, h.stands a l _ hl (List.getElem?_eq_getElem ha)⟩

theorem Stands.bounded (h : s.Stands o rs) (hl : s.ledgers[a]? = some l) {x : Nat} (hx : x ∈ l.sets) :
    x < s.sets.size := by
  obtain ⟨r, -, hr⟩ := h.exists_pairs hl
  exact hr.owns.bounded x hx

theorem Stands.alter (h : s.Stands o rs) (halters : s.Alters t a l) (hl : l.Stands o t.sets r)
    (hsize : t.ledgers.size = rs'.length) (hpairs : rs'[a]? = some r) (hothers : ∀ b, b ≠ a → rs'[b]? = rs[b]?) :
    t.Stands o rs' where
  size := hsize
  stands b m q hm hq := by
    by_cases hb : b = a
    · subst hb
      cases halters.list.symm.trans hm
      cases hpairs.symm.trans hq
      exact hl
    · have hold : s.ledgers[b]? = some m := (halters.lists b hb).symm.trans hm
      exact (h.stands b m q hold ((hothers b hb).symm.trans hq)).congr halters.grows fun x hx =>
        (halters.sets b m hb hold x hx).1
  apart b c m n hne hm hn x hx hx' := by
    by_cases hb : b = a
    · subst hb
      cases halters.list.symm.trans hm
      exact (halters.sets c n hne.symm ((halters.lists c hne.symm).symm.trans hn) x hx').2 hx
    · have hold : s.ledgers[b]? = some m := (halters.lists b hb).symm.trans hm
      by_cases hc : c = a
      · subst hc
        cases halters.list.symm.trans hn
        exact (halters.sets b m hb hold x hx).2 hx'
      · exact h.apart b c m n hne hold ((halters.lists c hc).symm.trans hn) x hx hx'

theorem Stands.push (h : s.Stands o rs) (hl : l.Stands o sets r) (hgrows : s.sets.size ≤ sets.size)
    (hkept : ∀ x < s.sets.size, sets[x]? = s.sets[x]?) (hnew : ∀ x ∈ l.sets, s.sets.size ≤ x) :
    (s.push l sets).Stands o (rs ++ [r]) ∧ ∀ a, s.Spares (s.push l sets) a := by
  have halters : s.Alters (s.push l sets) s.ledgers.size l := by
    refine ⟨Array.getElem?_push_size, fun b hb => ?_, hgrows, fun b m _ hm x hx => ⟨?_, fun hx' => ?_⟩⟩
    · rw [Shelf.push, Array.getElem?_push, if_neg hb]
    · exact hkept x (h.bounded hm hx)
    · exact Nat.not_lt.2 (hnew x hx') (h.bounded hm hx)
  have hsize : (s.push l sets).ledgers.size = (rs ++ [r]).length := by simp [Shelf.push, h.size]
  have hothers : ∀ b, b ≠ s.ledgers.size → (rs ++ [r])[b]? = rs[b]? := by
    intro b hb
    rw [h.size] at hb
    rcases Nat.lt_or_gt_of_ne hb with hlt | hgt
    · exact List.getElem?_append_left hlt
    · rw [List.getElem?_eq_none hgt.le, List.getElem?_eq_none (by simpa using Nat.succ_le_of_lt hgt)]
  refine ⟨h.alter halters hl hsize (h.size ▸ List.getElem?_concat_length) hothers, fun b => ?_⟩
  by_cases hb : b = s.ledgers.size
  · intro m hm
    rw [hb, Array.getElem?_size] at hm
    cases hm
  · exact halters.spares hb

theorem Stands.put (h : s.Stands o rs) (hl : s.ledgers[a]? = some l) (hrevises : l.Revises s.sets l' sets)
    (hl' : l'.Stands o sets r') : (s.put a l' sets).Stands o (rs.set a r') ∧
      ∀ b, b ≠ a → s.Spares (s.put a l' sets) b := by
  have ha : a < s.ledgers.size := (Array.getElem?_eq_some_iff.1 hl).1
  have halters : s.Alters (s.put a l' sets) a l' := by
    refine ⟨Array.getElem?_setIfInBounds_self_of_lt ha, fun b hb => Array.getElem?_setIfInBounds_ne hb.symm,
      hrevises.grows, fun b m hb hm x hx => ⟨?_, fun hx' => ?_⟩⟩
    · exact hrevises.others x (h.bounded hm hx) (h.apart b a m l hb hm hl x hx)
    · rcases hrevises.gained x hx' with hx' | hle
      · exact h.apart b a m l hb hm hl x hx hx'
      · exact Nat.not_lt.2 hle (h.bounded hm hx)
  have hsize : (s.put a l' sets).ledgers.size = (rs.set a r').length := by simp [Shelf.put, h.size]
  exact ⟨h.alter halters hl' hsize (List.getElem?_set_self (h.size ▸ ha)) fun b hb => List.getElem?_set_ne hb.symm,
    fun b hb => halters.spares hb⟩

/-- What is done to one list is done to its pairs, and to nothing else. -/
theorem Stands.change (h : s.Stands o rs) (a : Nat)
    {f : Ledger κ → Array IdSet → Except Fault (Ledger κ × Array IdSet)}
    {g : Finset (L × Place) → Finset (L × Place)}
    (hf : ∀ (l : Ledger κ) r, l.Stands o s.sets r → ∃ changed, f l s.sets = .ok changed ∧
      l.Revises s.sets changed.1 changed.2 ∧ changed.1.Stands o changed.2 (g r)) :
    ∃ t, s.change a f = .ok t ∧ t.Stands o (rs.modify a g) ∧ ∀ b, b ≠ a → s.Spares t b := by
  cases hl : s.ledgers[a]? with
  | none =>
    have ha : rs.length ≤ a := h.size ▸ Array.getElem?_eq_none_iff.1 hl
    refine ⟨s, by rw [Shelf.change, hl], ?_, fun b _ => .refl s b⟩
    rwa [List.modify_eq_self ha]
  | some l =>
    obtain ⟨r, hr, hstands⟩ := h.exists_pairs hl
    obtain ⟨changed, hchanged, hrevises, hstands'⟩ := hf l r hstands
    have hrs : rs.modify a g = rs.set a (g r) := by
      rw [List.modify_eq_set_getElem?, hr]
      rfl
    obtain ⟨hput, hspares⟩ := h.put hl hrevises hstands'
    refine ⟨s.put a changed.1 changed.2, ?_, hrs ▸ hput, hspares⟩
    simp only [Shelf.change, hl, hchanged]
    rfl

/-! ## Calls -/

/-- The pairs that each list stands for, by what has been done to it and to the list that it is a copy of. -/
def relate (o : KeyOrder κ L) (rs : List (Finset (L × Place))) : Call κ → List (Finset (L × Place))
  | .make _ => rs ++ [∅]
  | .add a k id => rs.modify a (insert (o.rank k, id.place))
  | .remove a k id => rs.modify a fun r => r.erase (o.rank k, id.place)
  | .copy a => rs ++ (rs[a]?).toList

/-- The keys of the call are among those that have ranks. -/
def Call.Suits (o : KeyOrder κ L) : Call κ → Prop
  | .add _ k _ => o.Admits k
  | .remove _ k _ => o.Admits k
  | _ => True

/-- The call enters something in the list at a place or removes it from there. -/
def Call.Changes (a : Nat) : Call κ → Prop
  | .add b _ _ => b = a
  | .remove b _ _ => b = a
  | _ => False

theorem Stands.make (h : s.Stands o rs) (field : String) :
    (s.make field).Stands o (rs ++ [∅]) ∧ ∀ a, s.Spares (s.make field) a :=
  h.push (Ledger.stands_empty field s.sets) (Nat.le_refl _) (fun _ _ => rfl) (by simp [Ledger.empty])

theorem Stands.copy (h : s.Stands o rs) (a : Nat) :
    (s.copy a).Stands o (rs ++ (rs[a]?).toList) ∧ ∀ b, s.Spares (s.copy a) b := by
  cases hl : s.ledgers[a]? with
  | none =>
    have ha : rs.length ≤ a := h.size ▸ Array.getElem?_eq_none_iff.1 hl
    rw [Shelf.copy, hl, List.getElem?_eq_none ha, Option.toList_none, List.append_nil]
    exact ⟨h, fun b => .refl s b⟩
  | some l =>
    obtain ⟨r, hr, hstands⟩ := h.exists_pairs hl
    have hgrows : s.sets.size ≤ (l.copy s.sets).2.size := by simp [Ledger.copy]
    rw [Shelf.copy, hl, hr, Option.toList_some]
    exact h.push hstands.copy hgrows (fun x hx => l.getElem?_copy hx) fun x hx => (Ledger.mem_sets_copy hx).1

theorem Stands.call (h : s.Stands o rs) {c : Call κ} (hc : c.Suits o) :
    ∃ t, s.call c = .ok t ∧ t.Stands o (relate o rs c) ∧ ∀ a, ¬ c.Changes a → s.Spares t a := by
  cases c with
  | make field =>
    obtain ⟨hstands, hspares⟩ := h.make field
    exact ⟨_, rfl, hstands, fun a _ => hspares a⟩
  | copy b =>
    obtain ⟨hstands, hspares⟩ := h.copy b
    exact ⟨_, rfl, hstands, fun a _ => hspares a⟩
  | add b k id =>
    obtain ⟨t, ht, hstands, hspares⟩ := h.change b (f := fun l sets => l.add k id sets)
      (g := insert (o.rank k, id.place)) fun l r hl => hl.add hc id
    exact ⟨t, ht, hstands, fun a ha => hspares a (Ne.symm ha)⟩
  | remove b k id =>
    obtain ⟨t, ht, hstands, hspares⟩ := h.change b (f := fun l sets => l.remove k id sets)
      (g := fun r => r.erase (o.rank k, id.place)) fun l r hl => hl.remove hc id
    exact ⟨t, ht, hstands, fun a ha => hspares a (Ne.symm ha)⟩

theorem Stands.callAll (h : s.Stands o rs) {calls : List (Call κ)} (hcalls : ∀ c ∈ calls, c.Suits o) :
    ∃ t, s.callAll calls = .ok t ∧ t.Stands o (calls.foldl (relate o) rs) ∧
      ∀ a, (∀ c ∈ calls, ¬ c.Changes a) → s.Spares t a := by
  -- the pairs that the lists stand for vary with every call
  induction calls generalizing s rs with
  | nil => exact ⟨s, rfl, h, fun a _ => .refl s a⟩
  | cons c calls ih =>
    obtain ⟨hc, hcalls⟩ := List.forall_mem_cons.1 hcalls
    obtain ⟨t, ht, hstands, hspares⟩ := h.call hc
    obtain ⟨u, hu, hstands', hspares'⟩ := ih hstands hcalls
    refine ⟨u, ?_, hstands', fun a ha => ?_⟩
    · rw [Shelf.callAll, List.foldlM_cons, ht]
      exact hu
    · obtain ⟨hca, ha⟩ := List.forall_mem_cons.1 ha
      exact (hspares a hca).trans (hspares' a ha)

/-- The pairs that each list stands for after calls on a shelf that was empty. -/
def relations (o : KeyOrder κ L) (calls : List (Call κ)) : List (Finset (L × Place)) := calls.foldl (relate o) []

/-- Calls with any keys that have ranks are all done, each list shows its own pairs afterwards, and a list is
the same after more calls as long as none of them changes it, also if it is a copy of a list that is changed or
has copies that are. Where the keys are a linearly ordered type, all of them have ranks, themselves. -/
theorem shows_callAll (o : KeyOrder κ L) {calls : List (Call κ)} (hcalls : ∀ c ∈ calls, c.Suits o) :
    ∃ s, (empty : Shelf κ).callAll calls = .ok s ∧ s.ledgers.size = (relations o calls).length ∧
      (∀ (a : Nat) (l : Ledger κ) r, s.ledgers[a]? = some l → (relations o calls)[a]? = some r →
        l.Shows o s.sets r) ∧
      ∀ later : List (Call κ), (∀ c ∈ later, c.Suits o) → ∃ t, s.callAll later = .ok t ∧
        ∀ a, (∀ c ∈ later, ¬ c.Changes a) → s.Spares t a := by
  obtain ⟨s, hs, hstands, -⟩ := (stands_empty (o := o)).callAll hcalls
  refine ⟨s, hs, hstands.size, fun a l r hl hr => (hstands.stands a l r hl hr).shows, fun later hlater => ?_⟩
  obtain ⟨t, ht, -, hspares⟩ := hstands.callAll hlater
  exact ⟨t, ht, hspares⟩

/-- Both zeros under two identifiers, a document entered twice and one removed that is not there; then the list
is copied, and each of the two is changed. -/
def twoLists : List (Call Scalar) :=
  let zero (negative : Bool) : Scalar := .float (.finite negative 0)
  let one : Scalar := .float (.finite false Double.unitsOfOne)
  [.make "numeric_object", .add 0 one (.text "a"), .add 0 one (.text "a"), .add 0 (zero false) (.text "b"),
    .remove 0 (zero true) (.text "a"), .add 0 (zero true) (.text "a"), .copy 0, .remove 0 one (.text "a"),
    .add 1 one (.text "b")]

theorem shows_callAll_twoLists :
    (∀ c ∈ twoLists, c.Suits FieldType.double.order) ∧
    ∃ s, (empty : Shelf Scalar).callAll twoLists = .ok s ∧
      (s.ledgers.toList.map fun l => (l.field, l.keys.size, l.entries)) =
        [("numeric_object", 1, 2), ("numeric_object", 2, 4)] ∧
      (∀ (a : Nat) (l : Ledger Scalar) r, s.ledgers[a]? = some l →
        (relations FieldType.double.order twoLists)[a]? = some r → l.Shows FieldType.double.order s.sets r) ∧
      ∃ t, s.callAll [.remove 1 (.float (.finite true 0)) (.text "b")] = .ok t ∧ s.Spares t 0 := by
  have hsuits : ∀ c ∈ twoLists, c.Suits FieldType.double.order := by
    have hdouble : ∀ negative units, FieldType.Admits .double (.float (.finite negative units)) :=
      fun _ _ => .double rfl
    simp [twoLists, Call.Suits, FieldType.order, hdouble]
  obtain ⟨s, hs, -, hshows, hspares⟩ := shows_callAll FieldType.double.order hsuits
  have hrun : (((empty : Shelf Scalar).callAll twoLists).map fun s =>
      s.ledgers.toList.map fun l => (l.field, l.keys.size, l.entries)).toOption =
        some [("numeric_object", 1, 2), ("numeric_object", 2, 4)] := by decide +kernel
  rw [hs] at hrun
  obtain ⟨t, ht, hspared⟩ := hspares [.remove 1 (.float (.finite true 0)) (.text "b")]
    (List.forall_mem_singleton.2 (.double rfl))
  exact ⟨hsuits, s, hs, Option.some.inj hrun, hshows, t, ht, hspared 0 (by simp [Call.Changes])⟩

end Shelf

end TripleIndex
