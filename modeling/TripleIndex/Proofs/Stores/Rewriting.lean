import TripleIndex.Proofs.Reachable

/-!
Documents that are put a second time. What a document has been entered under is taken out first, which gives
the posting lists back as they were before it, key by key and set by set, and then it is entered again. So the
index is the same in the end, not only as far as its answers go.
-/

namespace TripleIndex

/-! ## One posting list -/

theorem insertAscending_filter {id : DocId} {ids : List DocId} (h : id.place ∉ places ids) :
    (insertAscending id ids).filter (fun x => !x.sharesPlace id) = ids := by
  have hother : ∀ x ∈ ids, (!x.sharesPlace id) = true := by
    intro x hx
    rw [Bool.not_eq_true', Bool.eq_false_iff, ne_eq, Scalar.sharesPlace_iff]
    exact fun heq => h (List.mem_map.2 ⟨x, hx, heq⟩)
  have hself : ¬ (!id.sharesPlace id) = true := by
    rw [(Scalar.sharesPlace_iff id id).2 rfl]
    decide
  induction ids with
  | nil => rw [insertAscending, List.filter_cons, if_neg hself, List.filter_nil]
  | cons y ys ih =>
    obtain ⟨hy, hys⟩ := List.forall_mem_cons.1 hother
    have hnot : id.place ∉ places ys := fun hmem => h (List.mem_cons_of_mem _ hmem)
    unfold insertAscending
    split
    · rw [List.filter_cons, if_neg hself, List.filter_eq_self.2 hother]
    · split
      · rw [List.filter_cons, if_pos hy, ih hnot hys]
      · exact List.filter_eq_self.2 hother

theorem IdSet.erase_insert {s : IdSet} {id : DocId} (h : id.place ∉ s) : (s.insert id).erase id = s := by
  obtain ⟨ids, hascending⟩ := s
  have hlist : (insertAscending id ids).filter (fun x => !x.sharesPlace id) = ids := insertAscending_filter h
  unfold erase insert
  simp only [hlist]

namespace Postings

section Lawful

variable {κ L : Type} [Key κ] [LinearOrder L] {o : KeyOrder κ L} {p : Postings κ} {k : κ} {id : DocId}

theorem find?_congr {q : Postings κ} (h : p.keys = q.keys) : p.find? k = q.find? k := by
  cases p
  cases q
  cases h
  rfl

theorem Lawful.remove_add (h : p.Lawful o) (hk : o.Admits k) (hnew : ¬ p.Relates o (o.rank k) id.place) :
    (p.add k id).remove k id = p := by
  rcases h.locate hk with ⟨front, e, back, rfl, hfront, he, hback, hfind⟩ |
    ⟨front, back, rfl, hfront, hback, hfind, hbound⟩
  · have hnot : id.place ∉ e.2 := fun hmem => hnew (relates_middle.2 (.inl ⟨he, hmem⟩))
    have hfilled : e.2 ≠ .empty := (lawful_middle_iff.1 h).2.2.2.2
    have hkeys : (ofEntries (front ++ (e.1, e.2.insert id) :: back)).keys = (ofEntries (front ++ e :: back)).keys := by
      simp [ofEntries]
    rw [add_of_find?_eq_some id hfind, remove_of_find?_eq_some id ((find?_congr hkeys).trans hfind),
      IdSet.erase_insert hnot, if_neg fun hempty => hfilled ((IdSet.isEmpty_iff _).1 hempty)]
  · have hadmits := (lawful_ofEntries_iff.1 h).1
    have hlt : ∀ x ∈ front, Key.lt x.1 k = true := fun x hx =>
      (o.lt_iff (hadmits x (List.mem_append_left _ hx)) hk).2 (hfront x hx)
    have hge : ∀ x ∈ (k, IdSet.ofList [id]) :: back, Key.lt x.1 k = false := by
      intro x hx
      refine Bool.eq_false_iff.2 fun hxk => ?_
      rcases List.mem_cons.1 hx with rfl | hx
      · exact lt_irrefl _ ((o.lt_iff hk hk).1 hxk)
      · exact lt_asymm ((o.lt_iff (hadmits x (List.mem_append_right _ hx)) hk).1 hxk) (hback x hx)
    have hsingle : (IdSet.ofList [id]).erase id = .empty :=
      IdSet.erase_insert (IdSet.not_mem_empty id.place)
    rw [add_of_find?_eq_none id hfind hbound,
      remove_of_find?_eq_some id (find?_eq_some hlt hge ((o.same_iff hk hk).2 rfl)), hsingle]
    rfl

end Lawful

variable {type : FieldType} {value : Place → Option Scalar} {p : Postings Scalar} {v : Scalar} {id : DocId}

theorem Tracks.remove_add (h : p.Tracks type value) (hv : type.Admits v) (hnone : value id.place = none) :
    (p.add v id).remove v id = p := by
  refine h.lawful.remove_add hv fun hrelates => ?_
  obtain ⟨w, hw, -⟩ := (h.relates _ _).1 hrelates
  cases hnone.symm.trans hw

end Postings

/-! ## Tables -/

namespace Table

variable {κ α : Type} [DecidableEq κ]

theorem put_put (table : Table κ α) (key : κ) (a b : α) : (table.put key a).put key b = table.put key b := by
  have hrest : (table.without key).filter (·.1 ≠ key) = table.without key := by
    rw [without_eq_filter, List.filter_filter]
    simp only [Bool.and_self]
  rw [put, put, put, without_eq_filter, List.filter_cons_of_neg (by simp), hrest]

theorem Distinct.length_put {table : Table κ α} (h : table.Distinct) (key : κ) (a : α) :
    (table.put key a).length = if (table.lookup key).isSome then table.length else table.length + 1 := by
  rw [Table.put, List.length_cons, Table.without]
  split
  · next hsome =>
    obtain ⟨b, hb⟩ := Option.isSome_iff_exists.1 hsome
    obtain ⟨front, back, rfl⟩ := List.append_of_mem (mem_of_lookup hb)
    -- the key stands nowhere else
    rw [Distinct, List.map_append, List.map_cons, List.nodup_middle, List.nodup_cons, ← List.map_append] at h
    have hother : ∀ e ∈ front ++ back, decide (e.1 ≠ key) = true := by
      intro e he
      exact decide_eq_true fun heq => h.1 (List.mem_map.2 ⟨e, he, heq⟩)
    obtain ⟨hfront, hback⟩ := List.forall_mem_append.1 hother
    rw [List.filter_append, List.filter_cons_of_neg (by simp), List.filter_eq_self.2 hfront,
      List.filter_eq_self.2 hback, List.length_append, List.length_append, List.length_cons, Nat.add_assoc]
  · rfl

end Table

/-! ## The index -/

namespace Index

variable {ix : Index} {schema : Schema} {id : DocId} {d : Document}

theorem ext_of_parts {a b : Index} (hschema : a.schema = b.schema) (hdocuments : a.documents = b.documents)
    (hpostings : a.postings = b.postings) : a = b := by
  cases a
  cases b
  cases hschema
  cases hdocuments
  cases hpostings
  rfl

theorem postings_put (hd : Table.Distinct d) : (ix.put id d).postings =
    (ix.cleared id).postings.map fun e => (e.1, (d.lookup e.1).elim e.2 fun v => e.2.add v id) := by
  rw [put, enter_eq, postings_modifyAll _ _ _ hd]
  rfl

theorem Maintained.tracks_cleared (h : ix.Maintained schema fun _ => True) {field : String} {t : FieldType}
    (ht : schema.type? field = some t) (id : DocId) : ∃ p, (ix.cleared id).postings? field = some p ∧
      p.Tracks t (Function.update (ix.value? field) id.place none) :=
  Tracks.cleared (h.tracks field t ht trivial) fun _ hat => h.sound.names_of_at? hat

theorem fields_cleared (h : ix.Sound) (id : DocId) : (ix.cleared id).postings.map Prod.fst = ix.schema.map Prod.fst := by
  rw [← h.fields, cleared]
  cases ix.filed? id with
  | none => rfl
  | some old =>
    show (ix.withdraw id old.fields).postings.map Prod.fst = ix.postings.map Prod.fst
    rw [withdraw_eq, (modifyAll_frame ..).2.2]

/-- The values of a document that has just been put leave the posting lists as they were before it. -/
theorem Maintained.postings_withdraw_put (h : ix.Maintained schema fun _ => True) (hschema : Table.Distinct schema)
    (hd : Table.Distinct d)
    (hadmits : ∀ field v t, d.lookup field = some v → schema.type? field = some t → t.Admits v) :
    ((ix.put id d).withdraw id d).postings = (ix.cleared id).postings := by
  rw [withdraw_eq, postings_modifyAll _ _ _ hd, postings_put hd, List.map_map]
  refine (List.map_congr_left fun e he => ?_).trans (List.map_id _)
  obtain ⟨field, p⟩ := e
  have hfields := fields_cleared h.sound id
  have hdistinct : Table.Distinct (ix.cleared id).postings := by
    rw [Table.Distinct, hfields, h.schema_eq]
    exact hschema
  have hlookup : (ix.cleared id).postings? field = some p := hdistinct.lookup_eq_some_iff.2 he
  have hfield : field ∈ schema.map Prod.fst := by
    rw [← h.schema_eq, ← hfields]
    exact List.mem_map_of_mem he
  obtain ⟨t, ht⟩ : ∃ t, schema.type? field = some t := by
    refine Option.ne_none_iff_exists'.1 fun hnone => ?_
    exact Table.lookup_eq_none_iff_not_mem.1 hnone hfield
  obtain ⟨q, hq, htracks⟩ := h.tracks_cleared ht id
  cases hlookup.symm.trans hq
  simp only [Function.comp_apply, id_eq]
  cases hv : d.lookup field with
  | none => rfl
  | some v =>
    have hremove := htracks.remove_add (hadmits field v t hv ht) (Function.update_self ..)
    exact congrArg (field, ·) hremove

theorem Maintained.put_put (h : ix.Maintained schema fun _ => True) (hschema : Table.Distinct schema)
    (hd : Table.Distinct d)
    (hadmits : ∀ field v t, d.lookup field = some v → schema.type? field = some t → t.Admits v) :
    (ix.put id d).put id d = ix.put id d := by
  have hfiled : (ix.put id d).filed? id = some ⟨((ix.filed? id).map Filed.id).getD id, d⟩ := by
    rw [filed?, documents_put_eq, Table.lookup_put_self]
  have hcleared : (ix.put id d).cleared id = (ix.put id d).withdraw id d := by rw [cleared, hfiled]
  refine ext_of_parts (schema_put ..) ?_ ?_
  · rw [documents_put_eq, hfiled, documents_put_eq, Table.put_put]
    rfl
  · rw [postings_put hd, hcleared, h.postings_withdraw_put hschema hd hadmits, ← postings_put hd]

end Index

end TripleIndex
