import TripleIndex.Proofs.NaiveScan

/-!
Indexes that writes and deletions lead to. Documents stand under the places of their identifiers with
converted values, and the posting lists of all fields without numbers that are none are in step. A
deletion that ends early keeps this as well.
-/

namespace TripleIndex

/-- A document with each field once and with proper values. -/
structure Document.IsProper (d : Document) : Prop where
  names : Table.Distinct d
  values : ∀ e ∈ d, e.2.IsProper

namespace Index

theorem convertAll_eq_ok {schema : Schema} {d stored : Document} (h : convertAll schema d = .ok stored) :
    stored.map Prod.fst = d.map Prod.fst ∧
      ∀ e ∈ stored, ∃ v, (e.1, v) ∈ d ∧ schema.convert e.1 v = .ok e.2 := by
  induction d generalizing stored with
  | nil =>
    cases h
    exact ⟨rfl, by simp⟩
  | cons entry d ih =>
    obtain ⟨field, value⟩ := entry
    obtain ⟨w, hw, h⟩ := bind_eq_ok.1 h
    obtain ⟨rest, hrest, h⟩ := bind_eq_ok.1 h
    cases h
    obtain ⟨hnames, hvalues⟩ := ih hrest
    refine ⟨by simp [hnames], fun e he => ?_⟩
    rcases List.mem_cons.1 he with rfl | he
    · exact ⟨value, List.mem_cons_self, hw⟩
    · obtain ⟨v, hv, hconvert⟩ := hvalues e he
      exact ⟨v, List.mem_cons_of_mem _ hv, hconvert⟩

theorem write_eq_ok {ix after : Index} {d : Document} (h : ix.write d = .ok after) :
    ∃ stored, convertAll ix.schema d = .ok stored ∧
      after = ix.put (ix.newId ((stored.lookup Field.id).getD .null)) stored := by
  unfold write at h
  split at h
  · cases h
  · obtain ⟨stored, hstored, h⟩ := bind_eq_ok.1 h
    cases h
    exact ⟨stored, hstored, rfl⟩

/-- Documents with distinct fields and converted values, under the places of their identifiers. -/
structure Sound (ix : Index) : Prop where
  keys : ix.documents.Distinct
  places : ∀ e ∈ ix.documents, e.2.id.place = e.1
  names : ∀ e ∈ ix.documents, Table.Distinct e.2.fields
  converted : ∀ e ∈ ix.documents, ∀ x ∈ e.2.fields, ∃ v, v.IsProper ∧ ix.schema.convert x.1 v = .ok x.2
  fields : ix.postings.map Prod.fst = ix.schema.map Prod.fst

variable {ix after : Index} {schema : Schema}

theorem Sound.at?_eq_some (h : ix.Sound) {q : Place} {d : Document} :
    ix.at? q = some d ↔ ∃ e ∈ ix.documents, e.1 = q ∧ e.2.fields = d := by
  rw [at?, Option.map_eq_some_iff]
  simp only [h.keys.lookup_eq_some_iff]
  constructor
  · rintro ⟨filed, hmem, hd⟩
    exact ⟨_, hmem, rfl, hd⟩
  · rintro ⟨⟨_, filed⟩, hmem, rfl, hd⟩
    exact ⟨filed, hmem, hd⟩

theorem Sound.mem_ids (h : ix.Sound) (q : Place) : q ∈ ix.ids ↔ ∃ d, ix.at? q = some d := by
  rw [ids, IdSet.mem_ofList]
  simp only [TripleIndex.places, List.map_map, List.mem_map, Function.comp_apply, h.at?_eq_some]
  constructor
  · rintro ⟨e, he, rfl⟩
    exact ⟨_, e, he, (h.places e he).symm, rfl⟩
  · rintro ⟨d, e, he, rfl, -⟩
    exact ⟨e, he, h.places e he⟩

theorem Sound.names_of_at? (h : ix.Sound) {q : Place} {d : Document} (hd : ix.at? q = some d) :
    Table.Distinct d := by
  obtain ⟨e, he, -, rfl⟩ := h.at?_eq_some.1 hd
  exact h.names e he

theorem Sound.isSome_postings? (h : ix.Sound) (field : String) :
    (ix.postings? field).isSome = (ix.schema.type? field).isSome := by
  have hnone : ix.postings? field = none ↔ ix.schema.type? field = none := by
    rw [postings?, Schema.type?, Table.lookup_eq_none_iff_not_mem, Table.lookup_eq_none_iff_not_mem,
      h.fields]
  cases hp : ix.postings? field <;> cases ht : ix.schema.type? field <;> simp_all

theorem sound_empty (schema : Schema) : (Index.empty schema).Sound where
  keys := List.nodup_nil
  places := by simp [Index.empty]
  names := by simp [Index.empty]
  converted := by simp [Index.empty]
  fields := by simp [Index.empty, Function.comp_def]

theorem schema_discard (ix : Index) (id : DocId) (d : Document) : (ix.discard id d).schema = ix.schema := by
  rw [discard, withdraw_eq, (modifyAll_frame ..).2.1]

theorem schema_put (ix : Index) (id : DocId) (d : Document) : (ix.put id d).schema = ix.schema := by
  rw [put, enter_eq, (modifyAll_frame ..).2.1]
  cases ix.filed? id with
  | none => rfl
  | some old =>
    show (ix.withdraw id old.fields).schema = ix.schema
    rw [withdraw_eq, (modifyAll_frame ..).2.1]

theorem Sound.discard (h : ix.Sound) (id : DocId) (d : Document) : (ix.discard id d).Sound := by
  have hmem : ∀ e ∈ (ix.discard id d).documents, e ∈ ix.documents := by
    intro e he
    rw [documents_discard, Table.without_eq_filter] at he
    exact List.mem_of_mem_filter he
  constructor
  · rw [documents_discard]
    exact h.keys.without id.place
  · exact fun e he => h.places e (hmem e he)
  · exact fun e he => h.names e (hmem e he)
  · rw [schema_discard]
    exact fun e he => h.converted e (hmem e he)
  · rw [Index.discard, withdraw_eq, (modifyAll_frame ..).2.1, (modifyAll_frame ..).2.2]
    exact h.fields

theorem Sound.put (h : ix.Sound) {id : DocId} {d : Document} (hd : Table.Distinct d)
    (hconverted : ∀ x ∈ d, ∃ v, v.IsProper ∧ ix.schema.convert x.1 v = .ok x.2) : (ix.put id d).Sound := by
  obtain ⟨first, hdocuments, hfirst⟩ := ix.documents_put id d
  have hplace : first.place = id.place := by
    rcases hfirst with rfl | ⟨old, hold, rfl⟩
    · rfl
    · exact h.places _ (Table.mem_of_lookup hold)
  have hmem : ∀ e ∈ (ix.put id d).documents, e = (id.place, ⟨first, d⟩) ∨ e ∈ ix.documents := by
    intro e he
    rw [hdocuments, Table.put, Table.without_eq_filter] at he
    exact (List.mem_cons.1 he).imp_right List.mem_of_mem_filter
  constructor
  · rw [hdocuments]
    exact h.keys.put ..
  · intro e he
    rcases hmem e he with rfl | he
    · exact hplace
    · exact h.places e he
  · intro e he
    rcases hmem e he with rfl | he
    · exact hd
    · exact h.names e he
  · intro e he
    rw [schema_put]
    rcases hmem e he with rfl | he
    · exact hconverted
    · exact h.converted e he
  · rw [schema_put, Index.put, enter_eq, (modifyAll_frame ..).2.2]
    cases ix.filed? id with
    | none => exact h.fields
    | some old =>
      show (ix.withdraw id old.fields).postings.map Prod.fst = ix.schema.map Prod.fst
      rw [withdraw_eq, (modifyAll_frame ..).2.2]
      exact h.fields

/-! ## Upkeep -/

/-- An index of a schema in which the lists of all fields of certain types are in step. -/
structure Maintained (schema : Schema) (tracked : FieldType → Prop) (ix : Index) : Prop where
  sound : ix.Sound
  schema_eq : ix.schema = schema
  tracks : ∀ field t, schema.type? field = some t → tracked t → ix.Tracks field t

variable {tracked : FieldType → Prop}

theorem maintained_empty (schema : Schema) (tracked : FieldType → Prop) :
    (Index.empty schema).Maintained schema tracked := by
  refine ⟨sound_empty schema, rfl, fun field t ht _ => ⟨.empty, ?_, Postings.tracks_empty t⟩⟩
  have hlookup := Table.lookup_map schema (fun _ _ => (Postings.empty : Postings Scalar)) field
  rw [show schema.lookup field = some t from ht] at hlookup
  exact hlookup

theorem Maintained.discard (h : ix.Maintained schema tracked) {id : DocId} {filed : Filed}
    (hfiled : ix.filed? id = some filed) : (ix.discard id filed.fields).Maintained schema tracked := by
  have hat : ix.at? id.place = some filed.fields := by rw [at?_place, hfiled, Option.map_some]
  refine ⟨h.sound.discard .., (schema_discard ..).trans h.schema_eq, fun field t ht htracked => ?_⟩
  exact (h.tracks field t ht htracked).discard hat (h.sound.names_of_at? hat)

/-- Removing documents keeps what taking out a single one keeps. -/
theorem removeAll_induction {P : Index → Prop} (hix : P ix)
    (hstep : ∀ ix id filed, P ix → ix.filed? id = some filed → P (ix.discard id filed.fields))
    (ids : List DocId) : P (ix.removeAll ids).1 := by
  induction ids generalizing ix with
  | nil => exact hix
  | cons id ids ih =>
    cases hfiled : ix.filed? id with
    | none =>
      rw [removeAll, hfiled]
      exact hix
    | some filed =>
      rw [removeAll_cons hfiled]
      exact ih (hstep ix id filed hix hfiled)

theorem Maintained.delete (h : ix.Maintained schema tracked) (f : Filter) :
    (ix.delete f).1.Maintained schema tracked := by
  unfold Index.delete
  split
  · exact h
  · next selected _ =>
    have hremoved : (ix.removeAll selected.toList).1.Maintained schema tracked :=
      removeAll_induction h (fun _ _ _ h hfiled => h.discard hfiled) selected.toList
    split
    · next after heq => rwa [heq] at hremoved
    · next after e heq => rwa [heq] at hremoved

theorem Maintained.write (h : ix.Maintained schema tracked) {d : Document} (hd : d.IsProper)
    (hwrite : ix.write d = .ok after)
    (hnan : ∀ stored, convertAll schema d = .ok stored → ∀ e ∈ stored, ∀ t,
      schema.type? e.1 = some t → tracked t → e.2.isNan = false) :
    after.Maintained schema tracked := by
  obtain ⟨stored, hstored, rfl⟩ := write_eq_ok hwrite
  obtain ⟨hnames, hvalues⟩ := convertAll_eq_ok hstored
  have hdistinct : Table.Distinct stored := by
    rw [Table.Distinct, hnames]
    exact hd.names
  have hconverted : ∀ x ∈ stored, ∃ v, v.IsProper ∧ ix.schema.convert x.1 v = .ok x.2 := by
    intro x hx
    obtain ⟨v, hv, hconvert⟩ := hvalues x hx
    exact ⟨v, hd.values _ hv, hconvert⟩
  rw [h.schema_eq] at hstored
  refine ⟨h.sound.put hdistinct hconverted, (schema_put ..).trans h.schema_eq, fun field t ht htracked => ?_⟩
  refine (h.tracks field t ht htracked).put (fun old hold => h.sound.names_of_at? hold) hdistinct ?_
  intro w hw
  have hmem : (field, w) ∈ stored := Table.mem_of_lookup hw
  obtain ⟨v, hproper, hconvert⟩ := hconverted _ hmem
  rw [h.schema_eq] at hconvert
  obtain ⟨t', ht', hconvert⟩ := Schema.convert_eq_ok.1 hconvert
  cases ht.symm.trans ht'
  exact t.admits_of_convert hproper hconvert (hnan stored hstored _ hmem t ht htracked)

theorem Maintained.inStep (h : ix.Maintained schema tracked) {field : String} {t : FieldType}
    (ht : schema.type? field = some t) (htracked : tracked t) : ix.InStep field :=
  ⟨t, h.schema_eq ▸ ht, h.tracks field t ht htracked⟩

/-- What can be in an index: documents that were written and not deleted, whether or not the deletions
came to their end. -/
inductive Reachable (schema : Schema) : Index → Prop
  | empty : Reachable schema (.empty schema)
  | write {ix after : Index} {d : Document} (h : Reachable schema ix) (hd : d.IsProper)
      (hwrite : ix.write d = .ok after) : Reachable schema after
  | delete {ix : Index} (h : Reachable schema ix) (f : Filter) : Reachable schema (ix.delete f).1

/-- Fields of texts, integers and truth values are always in step. -/
theorem Reachable.maintained (h : Reachable schema ix) : ix.Maintained schema (· ≠ .double) := by
  induction h with
  | empty => exact maintained_empty ..
  | delete h f ih => exact ih.delete f
  | write h hd hwrite ih =>
    refine ih.write hd hwrite fun stored hstored e he t ht hdouble => ?_
    obtain ⟨v, -, hconvert⟩ := (convertAll_eq_ok hstored).2 e he
    obtain ⟨t', ht', hconvert⟩ := Schema.convert_eq_ok.1 hconvert
    cases ht.symm.trans ht'
    exact FieldType.isNan_of_convert hconvert hdouble

/-! ## Removals that come to their end -/

theorem documents_removeAll {ids : List DocId} (h : ix.removeAll ids = (after, .ok ())) :
    after.documents = ix.documents.filter fun e => e.1 ∉ TripleIndex.places ids := by
  induction ids generalizing ix with
  | nil =>
    cases h
    simp [TripleIndex.places]
  | cons id ids ih =>
    cases hfiled : ix.filed? id with
    | none =>
      rw [removeAll, hfiled] at h
      cases h
    | some filed =>
      rw [removeAll_cons hfiled] at h
      rw [ih h, documents_discard, Table.without_eq_filter, List.filter_filter]
      refine List.filter_congr fun e _ => ?_
      simp [TripleIndex.places, Bool.and_comm]

theorem at?_removeAll {ids : List DocId} (h : ix.removeAll ids = (after, .ok ())) (q : Place) :
    after.at? q = if q ∈ TripleIndex.places ids then none else ix.at? q := by
  induction ids generalizing ix with
  | nil =>
    cases h
    simp [TripleIndex.places]
  | cons id ids ih =>
    cases hfiled : ix.filed? id with
    | none =>
      rw [removeAll, hfiled] at h
      cases h
    | some filed =>
      rw [removeAll_cons hfiled] at h
      rw [ih h, at?_discard, Function.update_apply]
      have hplaces : q ∈ TripleIndex.places (id :: ids) ↔ q = id.place ∨ q ∈ TripleIndex.places ids := List.mem_cons
      simp only [hplaces]
      by_cases hid : q = id.place <;> simp [hid]

theorem exists_removeAll {ids : List DocId} (hids : ∀ q ∈ TripleIndex.places ids, ∃ d, ix.at? q = some d)
    (hnodup : (TripleIndex.places ids).Nodup) : ∃ after, ix.removeAll ids = (after, .ok ()) := by
  -- each place is named once, so a removal leaves the documents that come after it
  induction ids generalizing ix with
  | nil => exact ⟨ix, rfl⟩
  | cons id ids ih =>
    obtain ⟨hid, hrest⟩ := List.nodup_cons.1 hnodup
    obtain ⟨d, hd⟩ := hids id.place List.mem_cons_self
    obtain ⟨filed, hfiled, rfl⟩ := Option.map_eq_some_iff.1 (at?_place ix id ▸ hd)
    rw [removeAll_cons hfiled]
    refine ih (fun q hq => ?_) hrest
    have hne : q ≠ id.place := by
      rintro rfl
      exact hid hq
    rw [at?_discard, Function.update_of_ne hne]
    exact hids q (List.mem_cons_of_mem _ hq)

end Index

end TripleIndex
