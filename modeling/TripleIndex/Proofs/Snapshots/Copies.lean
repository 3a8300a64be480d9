import TripleIndex.Proofs.Snapshots.Ownership

/-!
Copies. A copy is laid down behind everything that is in memory, list by list. It reads like the index that
it is a copy of, owns its places, and whatever was in memory before stays as it was.
-/

namespace TripleIndex

theorem Extent.Within.refl (e : Extent) : e.Within e := ⟨Nat.le_refl _, Nat.le_refl _, Nat.le_refl _⟩

theorem Extent.Within.trans {e e' e'' : Extent} (h : e.Within e') (h' : e'.Within e'') : e.Within e'' :=
  ⟨Nat.le_trans h.tables h'.tables, Nat.le_trans h.listings h'.listings, Nat.le_trans h.sets h'.sets⟩

theorem AgreeBefore.mono {α : Type} {n n' : Nat} {xs ys : Array α} (h : AgreeBefore n' xs ys) (hn : n ≤ n') :
    AgreeBefore n xs ys := fun i hi => h i (Nat.lt_of_lt_of_le hi hn)

namespace Memory

variable {m m' : Memory} {l : Layout} {e e' : Extent} {schema : Schema} {a : Nat}

theorem Keeps.mono (h : m.Keeps e' m') (he : e.Within e') : m.Keeps e m' :=
  ⟨h.tables.mono he.tables, h.listings.mono he.listings, h.sets.mono he.sets⟩

/-! ## One list -/

theorem within_copyListing (m : Memory) (a : Nat) : m.extent.Within (m.copyListing a).extent := by
  constructor <;> simp [extent, copyListing]

theorem keeps_copyListing (m : Memory) (a : Nat) : m.Keeps m.extent (m.copyListing a) :=
  ⟨.refl _ _, agreeBefore_push (Nat.le_refl _) _, agreeBefore_append (Nat.le_refl _) _⟩

theorem listingAt_copyListing (m : Memory) (a : Nat) :
    (m.copyListing a).listingAt m.listings.size =
      ⟨(m.listingAt a).keys, Array.range' m.sets.size (m.listingAt a).sets.size⟩ := by
  simp [listingAt, copyListing]

theorem mem_listingAt_copyListing {s : Nat}
    (hs : s ∈ ((m.copyListing a).listingAt m.listings.size).sets) :
    m.sets.size ≤ s ∧ s < (m.copyListing a).sets.size := by
  rw [listingAt_copyListing] at hs
  simp only [Array.mem_range'] at hs
  obtain ⟨i, hi, rfl⟩ := hs
  have hsize : (m.copyListing a).sets.size = m.sets.size + (m.listingAt a).sets.size := by
    simp [copyListing]
  omega

theorem postingsAt_copyListing (m : Memory) (a : Nat) :
    (m.copyListing a).postingsAt m.listings.size = m.postingsAt a := by
  have hsets : (Array.range' m.sets.size (m.listingAt a).sets.size).map (m.copyListing a).setAt =
      (m.listingAt a).sets.map m.setAt := by
    apply Array.ext_getElem?
    intro i
    rw [Array.getElem?_map, Array.getElem?_map, Array.getElem?_range']
    by_cases hi : i < (m.listingAt a).sets.size
    · simp [hi, setAt, copyListing]
    · simp [hi]
  rw [postingsAt, listingAt_copyListing, hsets, postingsAt]

/-- An index that owns its places owns those of the copy of one more list too. -/
theorem Owned.copyListing (h : m.Owned e l) (name : String) (a : Nat) :
    (m.copyListing a).Owned e ⟨l.documents, l.postings ++ [(name, m.listings.size)]⟩ := by
  have hkeeps := keeps_copyListing m a
  have hwithin := within_copyListing m a
  have hheld := (hkeeps.holds h.held).mono hwithin
  have hplaces : ∀ b, b ∈ Layout.places ⟨l.documents, l.postings ++ [(name, m.listings.size)]⟩ ↔
      b ∈ l.places ∨ b = m.listings.size := by
    simp [Layout.places]
  have hold : ∀ b ∈ l.places, (m.copyListing a).listingAt b = m.listingAt b :=
    fun b hb => hkeeps.listingAt (h.held.listings b hb)
  -- the sets of the copy lie behind those of all other lists
  have hapart : ∀ b ∈ l.places, ∀ s ∈ ((m.copyListing a).listingAt m.listings.size).sets,
      s ∉ ((m.copyListing a).listingAt b).sets := by
    intro b hb s hs hsb
    rw [hold b hb] at hsb
    exact Nat.not_lt.2 (mem_listingAt_copyListing hs).1 (h.held.sets b hb s hsb)
  refine ⟨h.within.trans hwithin, ⟨hheld.documents, ?_, ?_⟩, h.documents, ?_, ?_, ?_, ?_, ?_⟩
  · intro b hb
    rcases (hplaces b).1 hb with hb | rfl
    · exact hheld.listings b hb
    · simp [extent, Memory.copyListing]
  · intro b hb s hs
    rcases (hplaces b).1 hb with hb | rfl
    · exact hheld.sets b hb s hs
    · exact (mem_listingAt_copyListing hs).2
  · intro b hb
    rcases (hplaces b).1 hb with hb | rfl
    · exact h.listings b hb
    · exact h.within.listings
  · intro b hb s hs
    rcases (hplaces b).1 hb with hb | rfl
    · rw [hold b hb] at hs
      exact h.sets b hb s hs
    · exact Nat.le_trans h.within.sets (mem_listingAt_copyListing hs).1
  · have hnew : m.listings.size ∉ l.places := fun hmem => Nat.lt_irrefl _ (h.held.listings _ hmem)
    show ((l.postings ++ [(name, m.listings.size)]).map Prod.snd).Nodup
    rw [List.map_append]
    refine List.nodup_append.2 ⟨h.places, by simp, fun b hb c hc => ?_⟩
    rw [List.mem_singleton.1 hc]
    rintro rfl
    exact hnew hb
  · intro b hb
    rcases (hplaces b).1 hb with hb | rfl
    · rw [hold b hb]
      exact h.distinct b hb
    · rw [listingAt_copyListing, Array.toList_range']
      exact List.nodup_range'
  · intro b hb c hc hne s hs
    rcases (hplaces b).1 hb with hb | rfl
    · rcases (hplaces c).1 hc with hc | rfl
      · rw [hold b hb] at hs
        rw [hold c hc]
        exact h.apart b hb c hc hne s hs
      · exact fun hsc => hapart b hb s hsc hs
    · rcases (hplaces c).1 hc with hc | rfl
      · exact hapart c hc s hs
      · exact absurd rfl hne

/-! ## All lists -/

theorem Owned.copyPostings (h : m.Owned e l) (schema : Schema) {named : List (String × Nat)}
    (hnamed : m.Holds m.extent ⟨l.documents, named⟩) :
    (m.copyPostings named).1.Owned e ⟨l.documents, l.postings ++ (m.copyPostings named).2⟩ ∧
      m.Keeps m.extent (m.copyPostings named).1 ∧
      ((m.copyPostings named).1.read schema ⟨l.documents, (m.copyPostings named).2⟩).postings =
        (m.read schema ⟨l.documents, named⟩).postings := by
  -- the lists that have been copied so far are those of `l`, and they stay as the others are copied
  induction named generalizing m l with
  | nil => exact ⟨by rwa [Memory.copyPostings, List.append_nil], .refl _ _, rfl⟩
  | cons p named ih =>
    obtain ⟨name, a⟩ := p
    have hone := h.copyListing name a
    have hkeeps := keeps_copyListing m a
    have hwithin := within_copyListing m a
    have hrest : m.Holds m.extent ⟨l.documents, named⟩ :=
      ⟨hnamed.documents, fun b hb => hnamed.listings b (List.mem_cons_of_mem _ hb),
        fun b hb => hnamed.sets b (List.mem_cons_of_mem _ hb)⟩
    obtain ⟨hall, hkeeps', hread⟩ := ih hone ((hkeeps.holds hrest).mono hwithin)
    refine ⟨?_, hkeeps.trans (hkeeps'.mono hwithin), ?_⟩
    · rw [List.append_assoc] at hall
      exact hall
    · have hfirst : ((m.copyListing a).copyPostings named).1.postingsAt m.listings.size =
          m.postingsAt a := by
        rw [hkeeps'.postingsAt hone.held (by simp [Layout.places]), postingsAt_copyListing]
      have hlater := congrArg Index.postings (hkeeps.read_eq hrest schema)
      exact List.cons_eq_cons.2 ⟨congrArg (Prod.mk name) hfirst, hread.trans hlater⟩

theorem within_pushTable (m : Memory) (t : Table Place Filed) : m.extent.Within (m.pushTable t).extent := by
  constructor <;> simp [extent, pushTable]

theorem keeps_pushTable (m : Memory) (t : Table Place Filed) : m.Keeps m.extent (m.pushTable t) :=
  ⟨agreeBefore_push (Nat.le_refl _) t, .refl _ _, .refl _ _⟩

theorem tableAt_pushTable (m : Memory) (t : Table Place Filed) : (m.pushTable t).tableAt m.tables.size = t := by
  simp [tableAt, pushTable]

theorem owned_pushTable (m : Memory) (t : Table Place Filed) :
    (m.pushTable t).Owned m.extent ⟨m.tables.size, []⟩ := by
  refine ⟨within_pushTable m t, ⟨?_, ?_, ?_⟩, Nat.le_refl _, ?_, ?_, List.nodup_nil, ?_, ?_⟩ <;>
    simp [Layout.places, extent, pushTable]

theorem Holds.copy (h : m.Holds m.extent l) (schema : Schema) :
    (m.copy l).1.Owned m.extent (m.copy l).2 ∧ m.Keeps m.extent (m.copy l).1 ∧
      (m.copy l).1.read schema (m.copy l).2 = m.read schema l := by
  have hkeeps := keeps_pushTable m (m.tableAt l.documents)
  have hwithin := within_pushTable m (m.tableAt l.documents)
  have htable := owned_pushTable m (m.tableAt l.documents)
  have hheld := (hkeeps.holds h).mono hwithin
  have hpostings : (m.pushTable (m.tableAt l.documents)).Holds
      (m.pushTable (m.tableAt l.documents)).extent ⟨m.tables.size, l.postings⟩ :=
    ⟨htable.held.documents, hheld.listings, hheld.sets⟩
  obtain ⟨howned, hkeeps', hread⟩ := htable.copyPostings schema hpostings
  refine ⟨howned, hkeeps.trans (hkeeps'.mono hwithin), ?_⟩
  have hdocuments : (m.copy l).1.tableAt m.tables.size = m.tableAt l.documents :=
    (hkeeps'.tableAt htable.held.documents).trans (tableAt_pushTable ..)
  have hlists := congrArg Index.postings (hkeeps.read_eq h schema)
  exact read_congr hdocuments (hread.trans hlists)

/-! ## The first index -/

theorem listingAt_start (schema : Schema) (a : Nat) : (start schema).1.listingAt a = ⟨#[], #[]⟩ := by
  rw [listingAt, start, Array.getElem?_replicate]
  split <;> rfl

theorem owned_start (schema : Schema) : (start schema).1.Owned ⟨0, 0, 0⟩ (start schema).2 := by
  have hplaces : (start schema).2.places = List.range' 0 schema.length := by
    simp [start, Layout.places]
  refine ⟨⟨Nat.zero_le _, Nat.zero_le _, Nat.zero_le _⟩, ⟨Nat.zero_lt_one, fun a ha => ?_, ?_⟩,
    Nat.zero_le _, fun _ _ => Nat.zero_le _, fun _ _ _ _ => Nat.zero_le _, ?_, ?_, ?_⟩
  · rw [hplaces] at ha
    simpa [start, extent] using ha
  · simp [listingAt_start]
  · rw [hplaces]
    exact List.nodup_range'
  · simp [listingAt_start]
  · simp [listingAt_start]

theorem read_start (schema : Schema) : (start schema).1.read schema (start schema).2 = .empty schema := by
  have hlist : ∀ a, (start schema).1.postingsAt a = .empty := by
    intro a
    rw [postingsAt, listingAt_start, Array.map_empty]
    rfl
  have hnames : ((schema.map Prod.fst).zipIdx.map Prod.fst).map (fun name => (name, Postings.empty)) =
      schema.map fun field => (field.1, (Postings.empty : Postings Scalar)) := by
    rw [List.zipIdx_map_fst, List.map_map]
    rfl
  rw [List.map_map] at hnames
  refine congrArg (Index.mk schema []) ?_
  simp only [hlist]
  exact hnames

end Memory

end TripleIndex
