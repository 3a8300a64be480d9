import TripleIndex.Proofs.Reachable

/-!
An index beside a plain table of its documents. After any writes and deletions over values that are
numbers where numbers are asked for, queries, deletions and figures are those of the table in which
the last document written at each place stands, less those deleted.
-/

namespace TripleIndex

/-- A change of an index. -/
inductive Change where
  | write (d : Document)
  | delete (f : Filter)

/-- A change over proper values, which are numbers once they are converted to numbers. -/
def Change.IsProper (schema : Schema) : Change → Prop
  | write d => d.IsProper ∧
      ∀ stored, Index.convertAll schema d = .ok stored → ∀ e ∈ stored, e.2.isNan = false
  | delete f => f.IsProper

abbrev Contents := Table Place Document

namespace Contents

def scan (schema : Schema) (f : Filter) (m : Contents) : Contents := m.filter fun e => f.holds schema e.2

def apply (schema : Schema) (m : Contents) : Change → Contents
  | .write d =>
    match Index.convertAll schema d with
    | .ok stored => m.put ((stored.lookup Field.id).getD .null).place stored
    | .error _ => m
  | .delete f => m.filter fun e => !f.holds schema e.2

end Contents

namespace Index

/-- Make a change that must succeed. -/
def apply (ix : Index) : Change → Except Fault Index
  | .write d => ix.write d
  | .delete f =>
    match ix.delete f with
    | (after, .ok _) => .ok after
    | (_, .error e) => .error e

def contents (ix : Index) : Contents := ix.documents.map fun e => (e.1, e.2.fields)

/-- The answers of an index are those of a table of documents. -/
structure Agrees (schema : Schema) (ix : Index) (m : Contents) : Prop where
  /-- Each document is read as it was last written. -/
  read : ∀ q, ix.at? q = m.lookup q
  size : ix.size = m.length
  evaluate : ∀ f : Filter, f.IsProper → f.Suits schema → ∃ result, ix.evaluate f none = .ok result ∧
    ∀ q, q ∈ result ↔ ∃ d, (q, d) ∈ m ∧ f.holds schema d = true
  evaluate_within : ∀ (f : Filter) (within : IdSet), f.IsProper → f.Suits schema →
    (∀ q ∈ within, ∃ d, (q, d) ∈ m) → ∃ result, ix.evaluate f (some within) = .ok result ∧
      ∀ q, q ∈ result ↔ q ∈ within ∧ ∃ d, (q, d) ∈ m ∧ f.holds schema d = true
  delete : ∀ f : Filter, f.IsProper → f.Suits schema → ∃ after,
    ix.delete f = (after, .ok (m.scan schema f).length) ∧
      after.contents = m.filter fun e => !f.holds schema e.2
  /-- Distinct values ascend strictly, and they are those of the documents. -/
  distinct : ∀ field t, schema.type? field = some t → ∃ vs, ix.distinctValues field = .ok vs ∧
    vs.Pairwise (fun a b => a.lt b = true) ∧
    (∀ v ∈ vs, ∃ e ∈ m, ∃ w, e.2.lookup field = some w ∧ v.same w = true) ∧
    ∀ e ∈ m, ∀ w, e.2.lookup field = some w → ∃ v ∈ vs, v.same w = true
  /-- Each field counts its distinct values and the documents that have it. -/
  stats : ∀ s ∈ ix.stats, ∃ vs, ix.distinctValues s.field = .ok vs ∧ s.keys = vs.length ∧
    s.entries = (m.filter fun e => (e.2.lookup s.field).isSome).length
  stats_fields : (ix.stats.map FieldStats.field).Perm (schema.map Prod.fst)

/-! ## Steps -/

variable {ix after : Index} {schema : Schema}

theorem Maintained.scans_of_tracked {tracked : FieldType → Prop} (h : ix.Maintained schema tracked) {c : Clause}
    (hc : c.IsProper) (htracked : ∀ t, schema.type? c.field = some t → tracked t) : ix.Scans c := by
  intro s hs
  have hsome : (ix.postings? c.field).isSome := by
    rw [select] at hs
    cases hp : ix.postings? c.field with
    | none =>
      rw [hp] at hs
      cases hs
    | some p => rfl
  rw [h.sound.isSome_postings?, h.schema_eq] at hsome
  obtain ⟨t, ht⟩ := Option.isSome_iff_exists.1 hsome
  exact (h.inStep ht (htracked t ht)).scans hc s hs

/-- Every clause scans where the lists of all fields are in step. -/
theorem Maintained.scans (h : ix.Maintained schema fun _ => True) {c : Clause} (hc : c.IsProper) :
    ix.Scans c := h.scans_of_tracked hc fun _ _ => trivial

theorem Maintained.mem_evaluate (h : ix.Maintained schema fun _ => True) {f : Filter} (hf : f.IsProper)
    {result : IdSet} (heval : ix.evaluate f none = .ok result) (q : Place) :
    q ∈ result ↔ ∃ d, ix.at? q = some d ∧ f.holds schema d = true := by
  rw [Index.mem_evaluate h.sound.mem_ids (fun c hc => h.scans (hf c hc)) heval, h.schema_eq]

theorem at?_eq_lookup_contents (ix : Index) (q : Place) : ix.at? q = ix.contents.lookup q :=
  (Table.lookup_map ix.documents (fun _ filed => filed.fields) q).symm

theorem Sound.distinct_contents (h : ix.Sound) : ix.contents.Distinct := by
  have hkeys : ix.contents.map Prod.fst = ix.documents.map Prod.fst := by
    rw [contents, List.map_map]
    rfl
  rw [Table.Distinct, hkeys]
  exact h.keys

theorem Sound.mem_contents (h : ix.Sound) {q : Place} {d : Document} :
    (q, d) ∈ ix.contents ↔ ix.at? q = some d := by
  rw [at?_eq_lookup_contents, h.distinct_contents.lookup_eq_some_iff]

theorem filter_contents (ix : Index) (test : Place × Document → Bool) :
    ix.contents.filter test = (ix.documents.filter fun e => test (e.1, e.2.fields)).map
      fun e => (e.1, e.2.fields) := List.filter_map

theorem Maintained.contents_removeAll (h : ix.Maintained schema fun _ => True) {f : Filter}
    (hf : f.IsProper) {selected : IdSet} (heval : ix.evaluate f none = .ok selected)
    (hremove : ix.removeAll selected.toList = (after, .ok ())) :
    after.contents = ix.contents.filter fun e => !f.holds schema e.2 := by
  rw [filter_contents, contents, documents_removeAll hremove]
  congr 1
  refine List.filter_congr fun e he => ?_
  have hat : ix.at? e.1 = some e.2.fields := h.sound.at?_eq_some.2 ⟨e, he, rfl, rfl⟩
  have hmem : e.1 ∈ TripleIndex.places selected.toList ↔ f.holds schema e.2.fields = true := by
    rw [IdSet.mem_toList, h.mem_evaluate hf heval, hat]
    simp
  cases hholds : f.holds schema e.2.fields <;> simp [hmem, hholds]

theorem delete_eq_ok {f : Filter} {n : Nat} (h : ix.delete f = (after, .ok n)) :
    ∃ selected, ix.evaluate f none = .ok selected ∧ ix.removeAll selected.toList = (after, .ok ()) ∧
      selected.size = n := by
  unfold Index.delete at h
  split at h
  · cases h
  · next selected heval =>
    split at h
    · next hremove =>
      cases h
      exact ⟨selected, heval, hremove, rfl⟩
    · cases h

theorem Maintained.exists_evaluate {tracked : FieldType → Prop} (h : ix.Maintained schema tracked) {f : Filter}
    (hf : f.Suits schema) (within : Option IdSet) : ∃ result, ix.evaluate f within = .ok result := by
  refine Index.exists_evaluate (h.schema_eq ▸ hf) (fun field hfield => ?_) within
  rw [h.sound.isSome_postings?]
  exact hfield

theorem Sound.removal_of_evaluate (h : ix.Sound) {f : Filter} (hscans : ∀ c ∈ f, ix.Scans c)
    {selected : IdSet} (heval : ix.evaluate f none = .ok selected) : ∃ after,
      ix.removeAll selected.toList = (after, .ok ()) ∧ ix.delete f = (after, .ok selected.size) := by
  have hstored : ∀ q ∈ TripleIndex.places selected.toList, ∃ d, ix.at? q = some d := by
    intro q hq
    obtain ⟨d, hd, -⟩ := (Index.mem_evaluate h.mem_ids hscans heval q).1 hq
    exact ⟨d, hd⟩
  obtain ⟨after, hremove⟩ := exists_removeAll hstored selected.nodup_places
  refine ⟨after, hremove, ?_⟩
  rw [Index.delete, heval]
  simp only [hremove]

theorem Maintained.removal_of_evaluate (h : ix.Maintained schema fun _ => True) {f : Filter} (hf : f.IsProper)
    {selected : IdSet} (heval : ix.evaluate f none = .ok selected) : ∃ after,
      ix.removeAll selected.toList = (after, .ok ()) ∧ ix.delete f = (after, .ok selected.size) :=
  h.sound.removal_of_evaluate (fun c hc => h.scans (hf c hc)) heval

theorem Maintained.exists_removal (h : ix.Maintained schema fun _ => True) {f : Filter} (hf : f.IsProper)
    (hsuits : f.Suits schema) : ∃ selected after, ix.evaluate f none = .ok selected ∧
      ix.removeAll selected.toList = (after, .ok ()) ∧ ix.delete f = (after, .ok selected.size) := by
  obtain ⟨selected, heval⟩ := h.exists_evaluate hsuits none
  obtain ⟨after, hremove, hdelete⟩ := h.removal_of_evaluate hf heval
  exact ⟨selected, after, heval, hremove, hdelete⟩

theorem Maintained.agrees_delete (h : ix.Maintained schema fun _ => True) {f : Filter} (hf : f.IsProper)
    (hsuits : f.Suits schema) : ∃ after,
      ix.delete f = (after, .ok (ix.contents.scan schema f).length) ∧
        after.contents = ix.contents.filter fun e => !f.holds schema e.2 := by
  obtain ⟨selected, after, heval, hremove, hdelete⟩ := h.exists_removal hf hsuits
  have hsize : selected.size = (ix.contents.scan schema f).length := by
    have hlength : ((ix.contents.scan schema f).map Prod.fst).length = _ := List.length_map ..
    rw [← hlength]
    refine IdSet.size_eq_length (h.sound.distinct_contents.filter _) fun q => ?_
    rw [h.mem_evaluate hf heval]
    simp [Contents.scan, h.sound.mem_contents]
  exact ⟨after, hsize ▸ hdelete, h.contents_removeAll hf heval hremove⟩

theorem Maintained.exists_postings (h : ix.Maintained schema fun _ => True) {field : String}
    {t : FieldType} (ht : schema.type? field = some t) :
    ∃ p, ix.postings? field = some p ∧ p.Tracks t (ix.value? field) := h.tracks field t ht trivial

theorem Maintained.value?_eq_some (h : ix.Maintained schema fun _ => True) {field : String} {q : Place}
    {w : Scalar} : ix.value? field q = some w ↔ ∃ d, (q, d) ∈ ix.contents ∧ d.lookup field = some w := by
  simp only [Index.value?_eq_some, h.sound.mem_contents]

theorem Maintained.agrees_distinct (h : ix.Maintained schema fun _ => True) {field : String}
    {t : FieldType} (ht : schema.type? field = some t) : ∃ vs, ix.distinctValues field = .ok vs ∧
      vs.Pairwise (fun a b => a.lt b = true) ∧
      (∀ v ∈ vs, ∃ e ∈ ix.contents, ∃ w, e.2.lookup field = some w ∧ v.same w = true) ∧
      ∀ e ∈ ix.contents, ∀ w, e.2.lookup field = some w → ∃ v ∈ vs, v.same w = true := by
  obtain ⟨p, hp, htracks⟩ := h.exists_postings ht
  have hadmits : ∀ v ∈ p.keys.toList, t.Admits v := by
    intro v hv
    rw [htracks.lawful.keys_eq] at hv
    obtain ⟨e, he, rfl⟩ := List.mem_map.1 hv
    exact htracks.lawful.admits e he
  have hkeys := htracks.lawful.exists_key_iff
  simp only [htracks.relates] at hkeys
  refine ⟨p.keys.toList, by rw [distinctValues, hp], ?_, ?_, ?_⟩
  · exact htracks.lawful.pairwise_keys.imp_of_mem fun {a b} ha hb hlt =>
      (t.lt_iff (hadmits a ha) (hadmits b hb)).2 hlt
  · intro v hv
    obtain ⟨q, w, hw, hrank⟩ := (hkeys v.sortKey).1 ⟨v, hv, rfl⟩
    obtain ⟨d, hd, hlookup⟩ := h.value?_eq_some.1 hw
    exact ⟨_, hd, w, hlookup, (t.same_iff (hadmits v hv) (htracks.admits q w hw)).2 hrank.symm⟩
  · rintro ⟨q, d⟩ hd w hlookup
    have hw := h.value?_eq_some.2 ⟨d, hd, hlookup⟩
    obtain ⟨v, hv, hrank⟩ := (hkeys w.sortKey).2 ⟨q, w, hw, rfl⟩
    exact ⟨v, hv, (t.same_iff (hadmits v hv) (htracks.admits q w hw)).2 hrank⟩

end Index

end TripleIndex
