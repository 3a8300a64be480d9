import TripleIndex.Proofs.Join.Answers
import TripleIndex.Proofs.Stores.FindAgain
import TripleIndex.Proofs.Stores.Refusals
import TripleIndex.Proofs.Stores.Rewriting

/-!
Insertions and what can be found after them. The clauses of a triple, and of every pattern that leaves some of
its slots open, ask for nothing but what its document has: the values that a literal is searched by are those
that it is stored by. So a reader on the store selects the document. Nothing else of the store is changed, and
a second insertion changes nothing at all.
-/

namespace TripleIndex

/-! ## The clauses of a stored triple -/

/-- A pattern that a triple becomes when some of its slots are left open. -/
structure Pattern.Opens (triple p : Pattern) : Prop where
  subject : p.subject = triple.subject ∨ ∃ name, p.subject = .var name
  predicate : p.predicate = triple.predicate ∨ ∃ name, p.predicate = .var name
  object : p.object = triple.object ∨ ∃ name, p.object = .var name

/-- The clauses ask for entries of a document. -/
def Filter.AsksFor (d : Document) (f : Filter) : Prop := ∀ c ∈ f, ∃ e ∈ d, c = .term e.1 e.2

section Clauses

variable {registry : Registry} {triple p : Pattern} {graph : Term} {t slot : Term} {l : Literal} {d : Document}

theorem literalClause_of_encode {fields : Document} (h : (registry.forLiteral l).encode l = .ok fields) :
    ∃ e ∈ fields, literalClause registry l = .ok (.term e.1 e.2) := by
  obtain ⟨form, hform, hfields⟩ := encode_fields h
  unfold literalClause
  rw [l.isWritable_of_form hform]
  split at hfields
  · next hindexable =>
    obtain ⟨value, hvalue, rfl⟩ := hfields
    refine ⟨((registry.forLiteral l).field, value), by simp, ?_⟩
    dsimp only
    rw [if_neg (by decide), if_pos hindexable, CodecFamily.valueClause, hvalue]
    rfl
  · next hindexable =>
    subst hfields
    refine ⟨(Field.object, .text form), by simp, ?_⟩
    dsimp only
    rw [if_neg (by decide), if_neg hindexable, hform]
    rfl

theorem asksFor_objectClauses {fields : Document} (h : objectFields registry t = .ok fields)
    (hslot : slot = t ∨ ∃ name, slot = .var name) :
    ∃ f, objectClauses registry slot = .ok f ∧ Filter.AsksFor fields f := by
  rcases hslot with rfl | ⟨name, rfl⟩
  · unfold objectFields at h
    split at h
    · next l =>
      obtain ⟨encoded, hencoded, h⟩ := bind_eq_ok.1 h
      cases h
      obtain ⟨e, he, hclause⟩ := literalClause_of_encode hencoded
      refine ⟨[.term Field.lang (languageField l), .term e.1 e.2], ?_, ?_⟩
      · show (literalClause registry l >>= _) = _
        rw [hclause]
        rfl
      · refine List.forall_mem_cons.2 ⟨⟨(Field.lang, languageField l), by simp, rfl⟩, ?_⟩
        exact List.forall_mem_singleton.2 ⟨e, List.mem_append_left _ he, rfl⟩
    · next hplain =>
      obtain ⟨form, hform, h⟩ := bind_eq_ok.1 h
      cases h
      have hclauses : objectClauses registry slot = slotClauses Field.object slot := by
        unfold objectClauses
        split
        · next l => exact absurd rfl (hplain l)
        · rfl
      rw [hclauses, slotClauses_of_form hform]
      exact ⟨_, rfl, List.forall_mem_singleton.2 ⟨_, List.mem_singleton_self _, rfl⟩⟩
  · exact ⟨[], rfl, nofun⟩

theorem slotClauses_of_open (field : String) {form : String} (h : t.form = .ok form)
    (hslot : slot = t ∨ ∃ name, slot = .var name) :
    ∃ f, slotClauses field slot = .ok f ∧ ∀ c ∈ f, c = .term field (.text form) := by
  rcases hslot with rfl | ⟨name, rfl⟩
  · exact ⟨_, slotClauses_of_form h, fun c hc => List.mem_singleton.1 hc⟩
  · exact ⟨[], rfl, nofun⟩

/-- A triple that can be stored can be searched, with any of its slots left open. -/
theorem asksFor_compile (hp : triple.Opens p) (h : document registry triple (some graph) = .ok d) :
    ∃ f, compile registry p (some graph) = .ok f ∧ Filter.AsksFor d f := by
  unfold document at h
  split at h
  · cases h
  obtain ⟨context, hcontext, h⟩ := bind_eq_ok.1 h
  obtain ⟨subject, hsubject, h⟩ := bind_eq_ok.1 h
  obtain ⟨predicate, hpredicate, h⟩ := bind_eq_ok.1 h
  obtain ⟨fields, hfields, h⟩ := bind_eq_ok.1 h
  cases h
  obtain ⟨subjects, hsubjects, hasksSubject⟩ := slotClauses_of_open Field.subject hsubject hp.subject
  obtain ⟨predicates, hpredicates, hasksPredicate⟩ :=
    slotClauses_of_open Field.predicate hpredicate hp.predicate
  obtain ⟨objects, hobjects, hasksObject⟩ := asksFor_objectClauses hfields hp.object
  refine ⟨subjects ++ predicates ++ objects ++ [.term Field.context (.text context)], ?_, ?_⟩
  · rw [compile, patternClauses, hsubjects, hpredicates, hobjects, hcontext]
    rfl
  · simp only [Filter.AsksFor, List.forall_mem_append, List.forall_mem_singleton]
    refine ⟨⟨⟨fun c hc => ?_, fun c hc => ?_⟩, fun c hc => ?_⟩, (Field.context, .text context), by simp, rfl⟩
    · exact ⟨(Field.subject, .text subject), by simp, hasksSubject c hc⟩
    · exact ⟨(Field.predicate, .text predicate), by simp, hasksPredicate c hc⟩
    · obtain ⟨e, he, hclause⟩ := hasksObject c hc
      exact ⟨e, List.mem_append_right _ he, hclause⟩

theorem Filter.AsksFor.holds {f : Filter} (h : Filter.AsksFor d f) (hd : d.IsCompiled) :
    (∀ c ∈ f, c.IsCompiled) ∧ f.holds Schema.triples d = true := by
  have hclause : ∀ c ∈ f, c.IsCompiled ∧ c.holds Schema.triples d = true := by
    intro c hc
    obtain ⟨e, he, rfl⟩ := h c hc
    have hcompiled := hd.values e he
    exact ⟨hcompiled, hcompiled.holds_iff.2 ⟨e.2, hd.names.lookup_eq_some_iff.2 he, hcompiled.same_self⟩⟩
  exact ⟨fun c hc => (hclause c hc).1, List.all_eq_true.2 fun c hc => (hclause c hc).2⟩

theorem Document.IsCompiled.admits (hd : d.IsCompiled) {field : String} {v : Scalar} {t : FieldType}
    (hv : d.lookup field = some v) (ht : Schema.triples.type? field = some t) : t.Admits v := by
  have hcompiled := hd.values _ (Table.mem_of_lookup hv)
  obtain ⟨t', ht', hconvert⟩ := Schema.convert_eq_ok.1 hcompiled.convert_eq
  cases ht.symm.trans ht'
  exact t.admits_of_convert hcompiled.isProper hconvert (hcompiled.isNan_of_convert hcompiled.convert_eq)

end Clauses

/-! ## The store after an insertion -/

namespace Store

variable {registry : Registry} {s after : Store} {triple : Pattern} {g : Option Term} {d : Document}

theorem insert_of_write {ix : Index} (hd : document s.registry triple (some (s.graph g)) = .ok d)
    (hwrite : s.index.write d = .ok ix) : s.insert triple g = .ok { s with index := ix } := by
  have hbind : (document s.registry triple (some (s.graph g))).bind s.index.write = .ok ix := by
    rw [hd]
    exact hwrite
  rw [insert, hbind]

theorem Reachable.insert_eq (hs : s.Reachable registry) (h : s.insert triple g = .ok after) :
    ∃ d, document registry triple (some (s.graph g)) = .ok d ∧
      after = { s with index := s.index.put d.quadruple.id d } := by
  have hmaintained := hs.maintained
  obtain ⟨d, ix, hd, hwrite, rfl⟩ := insert_eq_ok h
  rw [hmaintained.registry_eq] at hd
  obtain ⟨stored, hstored, rfl⟩ := Index.write_eq_ok hwrite
  rw [hmaintained.index.schema_eq, (isCompiled_document hd).convertAll_eq] at hstored
  cases hstored
  rw [lookup_id_document hd]
  exact ⟨d, hd, rfl⟩

theorem Reachable.size_insert (hs : s.Reachable registry)
    (hafter : after = { s with index := s.index.put d.quadruple.id d }) :
    after.size = if (s.index.at? d.quadruple.id.place).isSome then s.size else s.size + 1 := by
  subst hafter
  show (s.index.put d.quadruple.id d).documents.length = _
  rw [Index.documents_put_eq, hs.maintained.index.sound.keys.length_put, Index.at?, Option.isSome_map]
  rfl

theorem Reachable.insert_insert (hs : s.Reachable registry) (h : s.insert triple g = .ok after) :
    after.insert triple g = .ok after := by
  obtain ⟨d, hd, rfl⟩ := hs.insert_eq h
  have hmaintained := hs.maintained
  have hcompiled := isCompiled_document hd
  have hwrite : (s.index.put d.quadruple.id d).write d = .ok (s.index.put d.quadruple.id d) := by
    have hset : (!((d.lookup Field.id).getD .null).isSet) = false := by
      rw [lookup_id_document hd]
      exact congrArg not (isSet_documentId ..)
    have hput : (s.index.put d.quadruple.id d).put d.quadruple.id d = s.index.put d.quadruple.id d :=
      hmaintained.index.put_put (by decide) hcompiled.names fun field v t hv ht => hcompiled.admits hv ht
    rw [Index.write, hset, Index.schema_put, hmaintained.index.schema_eq, hcompiled.convertAll_eq]
    simp only [Bool.false_eq_true, if_false, ok_bind, lookup_id_document hd, Option.getD_some]
    exact congrArg Except.ok hput
  refine insert_of_write (s := { s with index := s.index.put d.quadruple.id d }) ?_ hwrite
  show document s.registry triple (some (s.graph g)) = .ok d
  rwa [hmaintained.registry_eq]

/-- An insertion puts the document of its triple in the store and leaves the others alone. A reader that is opened
then selects it by the triple and by every pattern that leaves slots of the triple open. -/
theorem insert_discoverable (hs : s.Reachable registry) (h : s.insert triple g = .ok after) :
    ∃ d, document registry triple (some (s.graph g)) = .ok d ∧
      (Reader.opened after.index).read d.quadruple.id = .ok d ∧
      (∀ q, q ≠ d.quadruple.id.place → after.index.at? q = s.index.at? q) ∧
      after.size = (if (s.index.at? d.quadruple.id.place).isSome then s.size else s.size + 1) ∧
      (∀ p, triple.Opens p → ∃ f selected, compile registry p (some (s.graph g)) = .ok f ∧
        (Reader.opened after.index).evaluate f none = .ok selected ∧ d.quadruple.id ∈ selected.toList) ∧
      after.insert triple g = .ok after := by
  obtain ⟨d, hd, hafter⟩ := hs.insert_eq h
  have hat : after.index.at? = Function.update s.index.at? d.quadruple.id.place (some d) := by
    rw [hafter]
    exact Index.at?_put ..
  have hself : after.index.at? d.quadruple.id.place = some d := by rw [hat, Function.update_self]
  refine ⟨d, hd, read_eq_ok hself, fun q hq => ?_, hs.size_insert hafter, fun p hp => ?_, hs.insert_insert h⟩
  · rw [hat, Function.update_of_ne hq]
  · have hmaintained := (hs.insert h).maintained.index
    obtain ⟨f, hf, hasks⟩ := asksFor_compile hp hd
    obtain ⟨hcompiled, hholds⟩ := hasks.holds (isCompiled_document hd)
    have hsuits : f.Suits Schema.triples := by
      intro c hc
      obtain ⟨e, -, rfl⟩ := hasks c hc
      exact Clause.suits_term (hcompiled _ hc).convert_eq
    obtain ⟨selected, heval⟩ := hmaintained.exists_evaluate hsuits none
    refine ⟨f, selected, hf, heval, IdSet.mem_of_text ?_⟩
    exact (hmaintained.mem_evaluate (fun c hc => (hcompiled c hc).isProper) heval _).2 ⟨d, hself, hholds⟩

/-- What is no number has no value in the field of the numbers, and is searched by its form instead. -/
theorem insert_discoverable_nan : ∃ (s after : Store) (d : Document), s.Reachable .default ∧
    s.insert (holding (typed "double" " NaN")) none = .ok after ∧ after.size = 1 ∧
    document .default (holding (typed "double" " NaN")) (some (s.graph none)) = .ok d ∧
    (Reader.opened after.index).read d.quadruple.id = .ok d ∧
    (holding (typed "double" " NaN")).Opens { holding (typed "double" " NaN") with subject := .var "s" } ∧
    (∃ f selected, compile .default { holding (typed "double" " NaN") with subject := .var "s" }
        (some (s.graph none)) = .ok f ∧
      (Reader.opened after.index).evaluate f none = .ok selected ∧ d.quadruple.id ∈ selected.toList) ∧
    after.insert (holding (typed "double" " NaN")) none = .ok after := by
  have hrun : (do
      let s ← Store.make .default .default
      return (← s.insert (holding (typed "double" " NaN")) none).size).toOption = some 1 := by decide +kernel
  obtain ⟨s, hs, hrun⟩ := bind_eq_ok.1 (toOption_eq_some.1 hrun)
  obtain ⟨after, hafter, hrun⟩ := bind_eq_ok.1 hrun
  have hopens : (holding (typed "double" " NaN")).Opens { holding (typed "double" " NaN") with subject := .var "s" } :=
    ⟨.inr ⟨"s", rfl⟩, .inl rfl, .inl rfl⟩
  obtain ⟨d, hd, hread, -, -, hfinds, hagain⟩ := insert_discoverable (.make hs) hafter
  exact ⟨s, after, d, .make hs, hafter, Except.ok.inj hrun, hd, hread, hopens, hfinds _ hopens, hagain⟩

end Store

end TripleIndex
