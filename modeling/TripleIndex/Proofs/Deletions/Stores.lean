import TripleIndex.Proofs.Deletions.Clauses
import TripleIndex.Proofs.PlainMap
import TripleIndex.Proofs.Terms.Forms
import TripleIndex.Store

/-!
Stores that insertions and deletions lead to. The document of a triple has each field once, with values of
the types of the fields, so all posting lists of the index are in step in every such store.
-/

namespace TripleIndex

/-! ## Documents of triples -/

theorem languageField_of_form {l : Literal} {form : String} (h : l.form = .ok form) :
    ∃ tag, languageField l = .text tag := by
  unfold languageField
  cases hlanguage : l.language? with
  | none => exact ⟨noLanguage, rfl⟩
  | some v =>
    obtain ⟨tag, rfl, -⟩ := Literal.hasLanguageTag_of_form h v hlanguage
    exact ⟨tag, rfl⟩

/-- A literal that is encoded has its canonical form, and its value unless it has none. -/
theorem encode_fields {family : CodecFamily} {l : Literal} {fields : List (String × Scalar)}
    (h : family.encode l = .ok fields) : ∃ form, l.form = .ok form ∧
      if family.isIndexable l.lexical then ∃ value, family.fieldValue l.lexical = .ok value ∧
        fields = [(Field.object, .text form), (family.field, value)]
      else fields = [(Field.object, .text form)] := by
  have hvalue : ∀ {family : CodecFamily}, family.encodeValue l = .ok fields → ∃ form, l.form = .ok form ∧
      ∃ value, family.fieldValue l.lexical = .ok value ∧
        fields = [(Field.object, .text form), (family.field, value)] := by
    intro family h
    obtain ⟨form, hform, h⟩ := bind_eq_ok.1 h
    obtain ⟨value, hvalue, h⟩ := bind_eq_ok.1 h
    cases h
    exact ⟨form, hform, value, hvalue, rfl⟩
  cases family with
  | numeric =>
    unfold CodecFamily.encode at h
    dsimp only at h
    split at h
    · cases h
    obtain ⟨_, -, h⟩ := bind_eq_ok.1 h
    split at h
    · next hindexable =>
      obtain ⟨form, hform, h⟩ := hvalue h
      exact ⟨form, hform, by rwa [if_pos hindexable]⟩
    · next hindexable =>
      obtain ⟨form, hform, h⟩ := bind_eq_ok.1 h
      cases h
      exact ⟨form, hform, by rw [if_neg hindexable]⟩
  | _ => exact hvalue h

theorem encode_eq_ok {family : CodecFamily} {l : Literal} {fields : List (String × Scalar)}
    (h : family.encode l = .ok fields) : ∃ form, l.form = .ok form ∧
      (fields = [(Field.object, .text form)] ∨ ∃ value, family.fieldValue l.lexical = .ok value ∧
        fields = [(Field.object, .text form), (family.field, value)]) := by
  obtain ⟨form, hform, hfields⟩ := encode_fields h
  split at hfields
  · exact ⟨form, hform, .inr hfields⟩
  · exact ⟨form, hform, .inl hfields⟩

/-- The fields of a document are distinct and each has a value of its type. -/
structure Document.IsCompiled (d : Document) : Prop where
  names : Table.Distinct d
  values : ∀ e ∈ d, (Clause.term e.1 e.2).IsCompiled

theorem isCompiled_entry {name : String} (hname : isFieldName name = true)
    (htype : Schema.triples.type? name = some .text) (text : String) :
    (Clause.term (name, Scalar.text text).1 (name, Scalar.text text).2).IsCompiled := .text text hname htype

theorem isCompiled_literalFields {family : CodecFamily} {l : Literal} {fields : List (String × Scalar)}
    (h : family.encode l = .ok fields) :
    ∀ e ∈ fields ++ [(Field.lang, languageField l)], (Clause.term e.1 e.2).IsCompiled := by
  obtain ⟨form, hform, hfields⟩ := encode_eq_ok h
  obtain ⟨tag, htag⟩ := languageField_of_form hform
  rw [List.forall_mem_append, htag]
  refine ⟨?_, List.forall_mem_singleton.2 (isCompiled_entry rfl rfl tag)⟩
  rcases hfields with rfl | ⟨value, hvalue, rfl⟩
  · exact List.forall_mem_singleton.2 (isCompiled_entry rfl rfl form)
  · refine List.forall_mem_cons.2 ⟨isCompiled_entry rfl rfl form, List.forall_mem_singleton.2 ?_⟩
    exact isCompiled_valueClause (map_eq_ok.2 ⟨value, hvalue, rfl⟩)

theorem nodup_literalFields {family : CodecFamily} {l : Literal} {fields : List (String × Scalar)}
    (h : family.encode l = .ok fields) : ([Field.id, Field.context, Field.subject, Field.predicate] ++
      (fields ++ [(Field.lang, languageField l)]).map Prod.fst).Nodup := by
  obtain ⟨form, -, rfl | ⟨value, -, rfl⟩⟩ := encode_eq_ok h
  · exact show [Field.id, Field.context, Field.subject, Field.predicate, Field.object, Field.lang].Nodup by decide
  · show [Field.id, Field.context, Field.subject, Field.predicate, Field.object, family.field, Field.lang].Nodup
    cases family <;> decide

/-- The document of a triple: its identifier, the texts of its slots and the fields of its object. -/
theorem document_eq_ok {registry : Registry} {triple : Pattern} {graph : Option Term} {d : Document}
    (h : document registry triple graph = .ok d) : ∃ context subject predicate fields,
      objectFields registry triple.object = .ok fields ∧
      d = [(Field.id, .text (documentId context subject predicate (objectForm fields))),
        (Field.context, .text context), (Field.subject, .text subject),
        (Field.predicate, .text predicate)] ++ fields := by
  unfold document at h
  split at h
  · cases h
  obtain ⟨context, -, h⟩ := bind_eq_ok.1 h
  obtain ⟨subject, -, h⟩ := bind_eq_ok.1 h
  obtain ⟨predicate, -, h⟩ := bind_eq_ok.1 h
  obtain ⟨fields, hfields, h⟩ := bind_eq_ok.1 h
  cases h
  exact ⟨context, subject, predicate, fields, hfields, rfl⟩

theorem isCompiled_document {registry : Registry} {triple : Pattern} {graph : Option Term} {d : Document}
    (h : document registry triple graph = .ok d) : d.IsCompiled := by
  obtain ⟨context, subject, predicate, fields, hfields, rfl⟩ := document_eq_ok h
  have hobject : (∀ e ∈ fields, (Clause.term e.1 e.2).IsCompiled) ∧
      ([Field.id, Field.context, Field.subject, Field.predicate] ++ fields.map Prod.fst).Nodup := by
    unfold objectFields at hfields
    split at hfields
    · obtain ⟨encoded, hencoded, hfields⟩ := bind_eq_ok.1 hfields
      cases hfields
      exact ⟨isCompiled_literalFields hencoded, nodup_literalFields hencoded⟩
    · obtain ⟨form, -, hfields⟩ := bind_eq_ok.1 hfields
      cases hfields
      refine ⟨List.forall_mem_singleton.2 (isCompiled_entry rfl rfl form), ?_⟩
      exact show [Field.id, Field.context, Field.subject, Field.predicate, Field.object].Nodup by decide
  refine ⟨hobject.2, ?_⟩
  simp only [List.forall_mem_append, List.forall_mem_cons]
  exact ⟨⟨.text _ rfl rfl, .text context rfl rfl, .text subject rfl rfl, .text predicate rfl rfl, by simp⟩,
    hobject.1⟩

theorem Document.IsCompiled.isProper {d : Document} (h : d.IsCompiled) : d.IsProper :=
  ⟨h.names, fun e he => (h.values e he).isProper⟩

theorem Clause.IsCompiled.isNan_of_convert {name : String} {v w : Scalar} (h : (Clause.term name v).IsCompiled)
    (hw : Schema.triples.convert name v = .ok w) : w.isNan = false := by
  obtain ⟨t, ht, hconvert⟩ := Schema.convert_eq_ok.1 hw
  cases h with
  | text text hname htype =>
    cases htype.symm.trans ht
    exact FieldType.isNan_of_convert hconvert (by decide)
  | number hx hnan =>
    cases ht
    cases hconvert
    exact hnan
  | instant hn =>
    cases ht
    exact FieldType.isNan_of_convert hconvert (by decide)
  | truth b =>
    cases ht
    exact FieldType.isNan_of_convert hconvert (by decide)

theorem Document.IsCompiled.isNan_eq_false {d stored : Document} (h : d.IsCompiled)
    (hstored : Index.convertAll Schema.triples d = .ok stored) : ∀ e ∈ stored, e.2.isNan = false := by
  intro e he
  obtain ⟨v, hv, hconvert⟩ := (Index.convertAll_eq_ok hstored).2 e he
  exact (h.values _ hv).isNan_of_convert hconvert

/-! ## Stores -/

namespace Store

/-- What can be in a store: triples that were inserted and not deleted. Calls that are refused leave it as it
is. -/
inductive Reachable (registry : Registry) : Store → Prop
  | make {settings : Settings} {s : Store} (h : Store.make settings registry = .ok s) : Reachable registry s
  | insert {s after : Store} {triple : Pattern} {g : Option Term} (h : Reachable registry s)
      (hinsert : s.insert triple g = .ok after) : Reachable registry after
  | delete {s : Store} (h : Reachable registry s) (p : Pattern) (g : Option Term) :
    Reachable registry (s.delete p g).1
  | clear {s : Store} (h : Reachable registry s) (g : Option Term) : Reachable registry (s.clear g).1

variable {registry : Registry} {s after : Store}

theorem Reachable.insertAll (h : Reachable registry s) (g : Option Term) (triples : List Pattern) :
    Reachable registry (s.insertAll g triples).1 := by
  induction triples generalizing s with
  | nil => exact h
  | cons triple triples ih =>
    unfold Store.insertAll
    split
    · next after hinsert => exact ih (h.insert hinsert)
    · split
      · exact ih h
      · exact h

theorem make_eq_ok {settings : Settings} (h : Store.make settings registry = .ok s) :
    s.settings.problems = .ok [] ∧ s.registry = registry ∧ s.index = .empty Schema.triples := by
  obtain ⟨checked, hchecked, h⟩ := bind_eq_ok.1 h
  obtain ⟨_, -, h⟩ := bind_eq_ok.1 h
  obtain ⟨pageSize, -, h⟩ := bind_eq_ok.1 h
  cases h
  obtain ⟨found, hfound, hchecked⟩ := bind_eq_ok.1 hchecked
  split at hchecked
  · next hempty =>
    cases hchecked
    rw [List.isEmpty_iff.1 hempty] at hfound
    exact ⟨hfound, rfl, rfl⟩
  · cases hchecked

theorem insert_eq_ok {triple : Pattern} {g : Option Term} (h : s.insert triple g = .ok after) :
    ∃ d ix, document s.registry triple (some (s.graph g)) = .ok d ∧ s.index.write d = .ok ix ∧
      after = { s with index := ix } := by
  unfold Store.insert at h
  split at h
  · next ix hwrite =>
    cases h
    obtain ⟨d, hd, hwrite⟩ := bind_eq_ok.1 hwrite
    exact ⟨d, ix, hd, hwrite, rfl⟩
  · cases h

theorem removeText_cases (s : Store) (text : Except Fault String) : (s.removeText text).1 = s ∨
    ∃ f, (s.removeText text).1 = { s with index := (s.index.delete f).1 } := by
  unfold removeText
  cases text with
  | error f => exact .inl rfl
  | ok text =>
    dsimp only
    rw [Index.deleteText]
    cases Filter.ofText text with
    | error f => exact .inl rfl
    | ok f => exact .inr ⟨f, rfl⟩

/-- New stores have a property and writes and deletions keep it: then all stores have it. -/
theorem Reachable.store_induction {P : Store → Prop} (h : Reachable registry s)
    (make : ∀ {s : Store}, s.settings.problems = .ok [] → s.registry = registry →
      s.index = .empty Schema.triples → P s)
    (write : ∀ {s : Store} {triple : Pattern} {graph : Option Term} {d : Document} {ix : Index},
      Reachable registry s → P s → document s.registry triple graph = .ok d → s.index.write d = .ok ix →
        P { s with index := ix })
    (delete : ∀ {s : Store} (f : Filter), P s → P { s with index := (s.index.delete f).1 }) : P s := by
  have hremove : ∀ {s : Store} text, P s → P (s.removeText text).1 := by
    intro s text hs
    rcases s.removeText_cases text with heq | ⟨f, heq⟩
    · rwa [heq]
    · rw [heq]
      exact delete f hs
  induction h with
  | make h =>
    obtain ⟨hproblems, hregistry, hindex⟩ := make_eq_ok h
    exact make hproblems hregistry hindex
  | insert h hinsert ih =>
    obtain ⟨d, ix, hd, hwrite, rfl⟩ := insert_eq_ok hinsert
    exact write h ih hd hwrite
  | delete h p g ih => exact hremove _ ih
  | clear h g ih => exact hremove _ ih

theorem Reachable.problems_eq (h : Reachable registry s) : s.settings.problems = .ok [] :=
  h.store_induction (P := fun s => s.settings.problems = .ok []) (fun hproblems _ _ => hproblems)
    (fun _ ih _ _ => ih) fun _ ih => ih

theorem Reachable.index (h : Reachable registry s) : Index.Reachable Schema.triples s.index := by
  refine h.store_induction (P := fun s => Index.Reachable Schema.triples s.index) (fun _ _ hindex => ?_)
    (fun _ ih hd hwrite => ih.write (isCompiled_document hd).isProper hwrite) fun f ih => ih.delete f
  rw [hindex]
  exact .empty

/-- A store of a registry, all posting lists of which are in step. -/
structure Maintained (registry : Registry) (s : Store) : Prop where
  registry_eq : s.registry = registry
  index : s.index.Maintained Schema.triples fun _ => True

theorem Reachable.maintained (h : Reachable registry s) : Maintained registry s := by
  refine h.store_induction (P := Maintained registry) (fun _ hregistry hindex => ?_) (fun _ ih hd hwrite => ?_)
    fun f ih => ?_
  · refine ⟨hregistry, ?_⟩
    rw [hindex]
    exact Index.maintained_empty ..
  · have hcompiled := isCompiled_document hd
    refine ⟨ih.registry_eq, ih.index.write hcompiled.isProper hwrite fun stored hstored e he _ _ _ => ?_⟩
    exact hcompiled.isNan_eq_false hstored e he
  · exact ⟨ih.registry_eq, ih.index.delete f⟩

end Store

end TripleIndex
