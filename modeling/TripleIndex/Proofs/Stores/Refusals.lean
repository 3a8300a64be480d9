import TripleIndex.Proofs.Deletions.Correctness
import TripleIndex.Proofs.Graphs.Searches

/-!
Calls that are refused. Whatever is wrong with a term or a value shows before anything is written, so a call
that is refused leaves the store as it is and says what was refused. A batch goes on after a triple that is
refused. Only what cannot be written, an integer that is too long for a text, cannot be named in a refusal
either.
-/

namespace TripleIndex

/-! ## What is wrong with a triple -/

theorem isPlain_checkNumeric {l : Literal} {e : Fault} (h : CodecFamily.checkNumeric l = .error e) :
    e.IsPlain := by
  unfold CodecFamily.checkNumeric at h
  dsimp only at h
  split at h
  · cases h
    rfl
  split at h
  · cases h
    rfl
  · cases h

theorem isPlain_encodeValue {family : CodecFamily} {l : Literal} {e : Fault}
    (h : family.encodeValue l = .error e) : e.IsPlain := by
  rcases bind_eq_error.1 h with h | ⟨form, -, h⟩
  · exact isPlain_literalForm h
  rcases bind_eq_error.1 h with h | ⟨value, -, h⟩
  · exact isPlain_fieldValue h
  · cases h

theorem isPlain_encode {family : CodecFamily} {l : Literal} {e : Fault} (h : family.encode l = .error e) :
    e.IsPlain := by
  cases family with
  | numeric =>
    unfold CodecFamily.encode at h
    dsimp only at h
    split at h
    · cases h
      rfl
    rcases bind_eq_error.1 h with h | ⟨_, -, h⟩
    · exact isPlain_checkNumeric h
    split at h
    · exact isPlain_encodeValue h
    · rcases bind_eq_error.1 h with h | ⟨form, -, h⟩
      · exact isPlain_literalForm h
      · cases h
  | _ => exact isPlain_encodeValue h

theorem isPlain_objectFields {registry : Registry} {t : Term} {e : Fault}
    (h : objectFields registry t = .error e) : e.IsPlain := by
  unfold objectFields at h
  split at h
  · rcases bind_eq_error.1 h with h | ⟨fields, -, h⟩
    · exact isPlain_encode h
    · cases h
  · rcases bind_eq_error.1 h with h | ⟨form, -, h⟩
    · exact isPlain_form h
    · cases h

theorem isPlain_document {registry : Registry} {triple : Pattern} {graph : Option Term} {e : Fault}
    (h : document registry triple graph = .error e) : e.IsPlain := by
  unfold document at h
  split at h
  · cases h
    exact Fault.isPlain_reported rfl
  rcases bind_eq_error.1 h with h | ⟨context, -, h⟩
  · exact isPlain_graphForm h
  rcases bind_eq_error.1 h with h | ⟨subject, -, h⟩
  · exact isPlain_form h
  rcases bind_eq_error.1 h with h | ⟨predicate, -, h⟩
  · exact isPlain_form h
  rcases bind_eq_error.1 h with h | ⟨fields, -, h⟩
  · exact isPlain_objectFields h
  · cases h

/-! ## What is read back -/

theorem Clause.IsAsked.suits_readBack {clause read : Clause} (h : clause.IsAsked) (hback : clause.ReadBack read) :
    read.Suits Schema.triples := by
  rcases h with h | ⟨v, -, rfl⟩
  · exact (h.survives hback).suits.2
  · cases hback with
    | @term _ _ text => exact suits_term (convert_text rfl text)

theorem Filter.suits_readBack {f read : Filter} (hf : ∀ c ∈ f, c.IsAsked)
    (h : List.Forall₂ Clause.ReadBack f read) : read.Suits Schema.triples := by
  induction h with
  | nil => exact nofun
  | cons hread _ ih =>
    obtain ⟨hclause, hrest⟩ := List.forall_mem_cons.1 hf
    exact List.forall_mem_cons.2 ⟨hclause.suits_readBack hread, ih hrest⟩

/-! ## What is written -/

theorem nameUuid_ne_empty (name : String) : nameUuid name ≠ "" := by
  intro hempty
  have hnil : NameUuid.bytesText (Md5.digest name.toUTF8.toList) = [] := by
    rw [← String.toList_ofList (l := NameUuid.bytesText _)]
    exact congrArg String.toList hempty
  unfold Md5.digest at hnil
  simp [NameUuid.bytesText, NameUuid.byteText, Md5.littleEndian, hexText] at hnil

theorem isSet_documentId (context subject predicate object : String) :
    (Scalar.text (documentId context subject predicate object)).isSet = true :=
  decide_eq_true (nameUuid_ne_empty _)

theorem Index.exists_write {ix : Index} (hschema : ix.schema = Schema.triples) {registry : Registry}
    {triple : Pattern} {graph : Option Term} {d : Document} (h : document registry triple graph = .ok d) :
    ∃ after, ix.write d = .ok after := by
  obtain ⟨context, subject, predicate, object, hdescribes⟩ := describes_document h
  have hset : ((d.lookup Field.id).getD .null).isSet = true := by
    rw [hdescribes.id]
    exact isSet_documentId ..
  obtain ⟨stored, hstored⟩ : ∃ stored, Index.convertAll ix.schema d = .ok stored := by
    rw [hschema]
    exact ⟨d, (isCompiled_document h).convertAll_eq⟩
  exact ⟨_, by rw [Index.write, hset, hstored]; rfl⟩

namespace Store

variable {registry : Registry} {s after : Store} {g : Option Term}

/-! ## Insertions -/

/-- An insertion is refused for what is wrong with its triple or its graph, whatever is in the store. -/
theorem Reachable.insert_eq_error (hs : s.Reachable registry) {triple : Pattern} {f : Fault} :
    s.insert triple g = .error f ↔ ∃ cause, document registry triple (some (s.graph g)) = .error cause ∧
      f = (Fault.cannotAdd triple cause).reported := by
  have hmaintained := hs.maintained
  rw [Store.insert, hmaintained.registry_eq]
  cases hd : document registry triple (some (s.graph g)) with
  | error cause =>
    have hfault : addingFault triple cause = (Fault.cannotAdd triple cause).reported :=
      if_pos (isPlain_document hd)
    simp [Except.bind, hfault, eq_comm]
  | ok d =>
    obtain ⟨ix, hwrite⟩ := Index.exists_write hmaintained.index.schema_eq hd
    simp [Except.bind, hwrite]

def accepts (s : Store) (g : Option Term) (triple : Pattern) : Bool := (s.insert triple g).isOk

theorem accepts_of_ok {triple : Pattern} (h : s.insert triple g = .ok after) : s.accepts g triple = true := by
  rw [accepts, h]
  rfl

theorem accepts_of_error {triple : Pattern} {f : Fault} (h : s.insert triple g = .error f) :
    s.accepts g triple = false := by
  rw [accepts, h]
  rfl

theorem Reachable.insert_eq_error_insert (hs : s.Reachable registry) {added triple : Pattern}
    (h : s.insert added g = .ok after) {f : Fault} :
    after.insert triple g = .error f ↔ s.insert triple g = .error f := by
  have hgraph : after.graph g = s.graph g := by
    obtain ⟨_, ix, -, -, rfl⟩ := insert_eq_ok h
    rfl
  rw [(hs.insert h).insert_eq_error, hs.insert_eq_error, hgraph]

theorem Reachable.accepts_insert (hs : s.Reachable registry) {added : Pattern}
    (h : s.insert added g = .ok after) : after.accepts g = s.accepts g := by
  funext triple
  cases hinsert : s.insert triple g with
  | error f => rw [accepts_of_error hinsert, accepts_of_error ((hs.insert_eq_error_insert h).2 hinsert)]
  | ok other =>
    cases hinsert' : after.insert triple g with
    | error f => cases hinsert.symm.trans ((hs.insert_eq_error_insert h).1 hinsert')
    | ok other' => rw [accepts_of_ok hinsert, accepts_of_ok hinsert']

theorem Reachable.insert_denied (hs : s.Reachable registry) {triple : Pattern} {f : Fault}
    (h : s.insert triple g = .error f) (hwritable : triple.isWritable = true) :
    ∃ cause, f = .cannotAdd triple cause := by
  obtain ⟨cause, -, rfl⟩ := hs.insert_eq_error.1 h
  exact ⟨cause, Fault.reported_of_isWritable hwritable⟩

/-- What a batch does: it adds the triples that can be added, in their order, and tells of each of the others
why it was refused. -/
structure Collects (s : Store) (g : Option Term) (triples : List Pattern) (after : Store) (batch : Batch) : Prop where
  fault : batch.fault = none
  inserted : batch.inserted = (triples.filter (s.accepts g)).length
  added : (triples.filter (s.accepts g)).foldlM (fun s triple => s.insert triple g) s = .ok after
  refused : batch.refused.map Prod.fst = triples.filter fun triple => !s.accepts g triple
  faults : ∀ e ∈ batch.refused, s.insert e.1 g = .error e.2

theorem Reachable.collects_insertAll (hs : s.Reachable registry) {triples : List Pattern}
    (hwritable : ∀ triple ∈ triples, triple.isWritable = true) :
    s.Collects g triples (s.insertAll g triples).1 (s.insertAll g triples).2 := by
  -- a triple that is added changes nothing about which of the others can be added
  induction triples generalizing s with
  | nil =>
    rw [Store.insertAll]
    exact ⟨rfl, rfl, rfl, rfl, fun e he => absurd he List.not_mem_nil⟩
  | cons triple triples ih =>
    obtain ⟨hfirst, hrest⟩ := List.forall_mem_cons.1 hwritable
    rw [Store.insertAll]
    cases hinsert : s.insert triple g with
    | ok next =>
      have hnext := ih (hs.insert hinsert) hrest
      have haccepts := hs.accepts_insert hinsert
      have htriple := accepts_of_ok hinsert
      constructor
      · exact hnext.fault
      · rw [List.filter_cons_of_pos htriple, List.length_cons, ← haccepts, ← hnext.inserted]
      · rw [List.filter_cons_of_pos htriple, List.foldlM_cons, hinsert, ← haccepts]
        exact hnext.added
      · rw [List.filter_cons_of_neg (by simp [htriple]), ← haccepts]
        exact hnext.refused
      · exact fun e he => (hs.insert_eq_error_insert hinsert).1 (hnext.faults e he)
    | error f =>
      have hsame := ih hs hrest
      have htriple := accepts_of_error hinsert
      obtain ⟨cause, rfl⟩ := hs.insert_denied hinsert hfirst
      have hkind : (Fault.cannotAdd triple cause).kind = .addDenied := rfl
      dsimp only
      rw [if_pos hkind]
      constructor
      · exact hsame.fault
      · rw [List.filter_cons_of_neg (by simp [htriple])]
        exact hsame.inserted
      · rw [List.filter_cons_of_neg (by simp [htriple])]
        exact hsame.added
      · rw [List.filter_cons_of_pos (by simp [htriple]), List.map_cons, hsame.refused]
      · exact List.forall_mem_cons.2 ⟨hinsert, hsame.faults⟩

theorem Collects.length_eq {triples : List Pattern} {batch : Batch} (h : s.Collects g triples after batch) :
    batch.inserted + batch.refused.length = triples.length := by
  have hrefused : batch.refused.length = (triples.filter fun triple => !s.accepts g triple).length := by
    rw [← h.refused, List.length_map]
  rw [h.inserted, hrefused]
  exact (List.length_eq_length_filter_add _).symm

/-! ## Deletions -/

theorem Reachable.removeText_text (hs : s.Reachable registry) {f : Filter} (hasked : ∀ c ∈ f, c.IsAsked)
    (hsome : f ≠ []) : ∃ after n, s.removeText (.ok f.text) = (after, .ok n) := by
  obtain ⟨read, hread, hback⟩ := Filter.ofText_text (fun c hc => (hasked c hc).asks) hsome
  have hsuits := Filter.suits_readBack hasked hback
  obtain ⟨selected, after, -, -, hdelete⟩ :=
    hs.maintained.index.exists_removal (Filter.isProper_of_readBack hback) hsuits
  refine ⟨{ s with index := after }, selected.size, ?_⟩
  rw [removeText]
  dsimp only
  rw [Index.deleteText, hread]
  dsimp only
  rw [hdelete]

theorem Reachable.delete_cases (hs : s.Reachable registry) (p : Pattern) (g : Option Term) :
    (∃ after n, s.delete p g = (after, .ok n)) ∨
      ∃ cause, s.delete p g = (s, .error (Fault.cannotDelete p cause).reported) := by
  rw [Store.delete, hs.maintained.registry_eq, TripleIndex.deleteText]
  cases hclauses : patternClauses registry p (some (s.graph g)) with
  | ok f =>
    obtain ⟨after, n, hremove⟩ := hs.removeText_text (isAsked_patternClauses hclauses)
      (List.ne_nil_of_mem (Index.context_mem_of_patternClauses hclauses).choose_spec.2)
    refine .inl ⟨after, n, ?_⟩
    dsimp only
    rw [hremove]
    rfl
  | error cause =>
    have hplain := isPlain_patternClauses hclauses
    unfold Fault.IsPlain at hplain
    dsimp only
    rw [if_pos hplain]
    refine .inr ⟨(Fault.cannotCompileDelete p cause).reported, ?_⟩
    have hfault : deletingFault p (Fault.cannotCompileDelete p cause).reported =
        (Fault.cannotDelete p (Fault.cannotCompileDelete p cause).reported).reported := by
      refine if_pos ?_
      unfold Fault.reported
      split <;> rfl
    rw [removeText]
    exact congrArg (fun refusal => (s, Except.error refusal)) hfault

theorem Reachable.clear_cases (hs : s.Reachable registry) (g : Option Term) :
    (∃ after n, s.clear g = (after, .ok n)) ∨
      ∃ cause, s.clear g = (s, .error (Fault.cannotClear (s.graph g) cause).reported) := by
  rw [Store.clear]
  cases hform : graphForm (some (s.graph g)) with
  | ok form =>
    have hasked : ∀ c ∈ inGraph form, c.IsAsked := List.forall_mem_singleton.2 (.inl (.text form rfl rfl))
    obtain ⟨after, n, hremove⟩ := hs.removeText_text hasked (by simp [inGraph])
    refine .inl ⟨after, n, ?_⟩
    rw [graphText_eq hform, hremove]
    rfl
  | error cause =>
    have hfault : clearingFault (s.graph g) cause = (Fault.cannotClear (s.graph g) cause).reported :=
      if_pos (isPlain_graphForm hform)
    refine .inr ⟨cause, ?_⟩
    rw [graphText, hform]
    exact congrArg (fun refusal => (s, Except.error refusal)) hfault

/-! ## Refusals -/

/-- A refused insertion names its triple and a refused deletion its pattern or its graph, and the store stays as
it is. A batch is never refused: it adds what can be added and collects the other triples. All of this is so for
whatever can be written. -/
theorem refusals (hs : s.Reachable registry) (g : Option Term) :
    (∀ triple f, s.insert triple g = .error f → triple.isWritable = true → ∃ cause, f = .cannotAdd triple cause) ∧
    (∀ p f, (s.delete p g).2 = .error f → (s.delete p g).1 = s ∧
      (p.isWritable = true → ∃ cause, f = .cannotDelete p cause)) ∧
    (∀ f, (s.clear g).2 = .error f → (s.clear g).1 = s ∧
      ((s.graph g).isWritable = true → ∃ cause, f = .cannotClear (s.graph g) cause)) ∧
    ∀ triples : List Pattern, (∀ triple ∈ triples, triple.isWritable = true) →
      let (after, batch) := s.insertAll g triples
      s.Collects g triples after batch ∧ batch.inserted + batch.refused.length = triples.length := by
  refine ⟨fun triple f h hwritable => hs.insert_denied h hwritable, fun p f h => ?_, fun f h => ?_,
    fun triples hwritable => ?_⟩
  · rcases hs.delete_cases p g with ⟨after, n, hdelete⟩ | ⟨cause, hdelete⟩
    · rw [hdelete] at h
      cases h
    · rw [hdelete] at h ⊢
      cases h
      exact ⟨rfl, fun hwritable => ⟨cause, Fault.reported_of_isWritable hwritable⟩⟩
  · rcases hs.clear_cases g with ⟨after, n, hclear⟩ | ⟨cause, hclear⟩
    · rw [hclear] at h
      cases h
    · rw [hclear] at h ⊢
      cases h
      exact ⟨rfl, fun hwritable => ⟨cause, Fault.reported_of_isWritable hwritable⟩⟩
  · have hcollects := hs.collects_insertAll hwritable (g := g)
    exact ⟨hcollects, hcollects.length_eq⟩

/-- A malformed number, a text and a variable. -/
def mixedBatch : List Pattern :=
  [{ stated "" with object := .literal ⟨.text "many", none, some (.text (xsd "int"))⟩ }, stated "a",
    { stated "b" with subject := .var "s" }]

/-- A literal where the name of a graph should be. -/
def notAGraph : Option Term := some (.literal (.ofText "g"))

theorem refusals_mixedBatch : ∃ s : Store, s.Reachable .default ∧
    (∀ triple ∈ mixedBatch, triple.isWritable = true) ∧
    (∃ cause, s.insert (stating "a") none = .error (.cannotAdd (stating "a") cause)) ∧
    (∃ cause, s.delete untermed none = (s, .error (.cannotDelete untermed cause))) ∧
    (∃ cause, s.clear notAGraph = (s, .error (.cannotClear (.literal (.ofText "g")) cause))) ∧
    let (after, batch) := s.insertAll none mixedBatch
    s.Collects none mixedBatch after batch ∧ batch.inserted = 1 ∧
      batch.inserted + batch.refused.length = mixedBatch.length := by
  have hrun : ((Store.make .default .default).toOption.any fun s => !(s.insert (stating "a") none).isOk &&
      !(s.delete untermed none).2.isOk && !(s.clear notAGraph).2.isOk &&
        (s.insertAll none mixedBatch).2.inserted = 1) = true := by decide +kernel
  simp only [Option.any_eq_true, toOption_eq_some, Bool.and_eq_true, Bool.not_eq_true', decide_eq_true_eq] at hrun
  obtain ⟨s, hs, ⟨⟨hinsert, hdelete⟩, hclear⟩, hinserted⟩ := hrun
  obtain ⟨hinsertion, hdeletion, -, hbatch⟩ := refusals (.make hs) none
  obtain ⟨-, -, hclearing, -⟩ := refusals (.make hs) notAGraph
  have hwritable : ∀ triple ∈ mixedBatch, triple.isWritable = true := by decide
  have herror : ∀ {α : Type} {x : Except Fault α}, x.isOk = false → ∃ f, x = .error f := by
    intro α x hx
    cases x with
    | ok a => cases hx
    | error f => exact ⟨f, rfl⟩
  refine ⟨s, .make hs, hwritable, ?_, ?_, ?_, ?_⟩
  · obtain ⟨f, hf⟩ := herror hinsert
    obtain ⟨cause, rfl⟩ := hinsertion _ f hf rfl
    exact ⟨cause, hf⟩
  · obtain ⟨f, hf⟩ := herror hdelete
    obtain ⟨hsame, hdenied⟩ := hdeletion _ f hf
    obtain ⟨cause, rfl⟩ := hdenied rfl
    exact ⟨cause, Prod.ext hsame hf⟩
  · obtain ⟨f, hf⟩ := herror hclear
    obtain ⟨hsame, hdenied⟩ := hclearing f hf
    obtain ⟨cause, rfl⟩ := hdenied rfl
    exact ⟨cause, Prod.ext hsame hf⟩
  · obtain ⟨hcollects, hlength⟩ := hbatch mixedBatch hwritable
    exact ⟨hcollects, hinserted, hlength⟩

/-- A triple with an integer of more digits than a text holds. -/
def unwritten : Pattern := { stated "" with object := .literal ⟨.int firstUnwritten, none, none⟩ }

/-- A batch ends at a triple that cannot even be named, and what comes after it is not added. -/
theorem refusals_unwritten : ∃ s : Store, s.Reachable .default ∧
    (∃ f, s.insert unwritten none = .error f ∧ ∀ cause, f ≠ .cannotAdd unwritten cause) ∧
    (∃ f, (s.insertAll none [unwritten, stated "a"]).2.fault = some f) ∧
    (s.insertAll none [unwritten, stated "a"]).2.inserted = 0 ∧ s.accepts none (stated "a") = true := by
  have hrun : ((Store.make .default .default).toOption.any fun s =>
      (((s.insert unwritten none).map fun _ => ()).mapError Fault.kind = .error .invalidValue) &&
      (s.insertAll none [unwritten, stated "a"]).2.fault.isSome &&
      (s.insertAll none [unwritten, stated "a"]).2.inserted = 0 && s.accepts none (stated "a")) = true := by
    decide +kernel
  simp only [Option.any_eq_true, toOption_eq_some, Bool.and_eq_true, decide_eq_true_eq] at hrun
  obtain ⟨s, hs, ⟨⟨hinsert, hfault⟩, hinserted⟩, haccepts⟩ := hrun
  refine ⟨s, .make hs, ?_, Option.isSome_iff_exists.1 hfault, hinserted, haccepts⟩
  cases hf : s.insert unwritten none with
  | ok after =>
    rw [hf] at hinsert
    cases hinsert
  | error f =>
    rw [hf] at hinsert
    refine ⟨f, rfl, fun cause hcause => ?_⟩
    subst hcause
    cases (Except.error.inj hinsert : FaultKind.addDenied = .invalidValue)

end Store

end TripleIndex
