import TripleIndex.Proofs.Graphs.Documents

/-!
What a call does to the documents. A deletion finds the clause for its graph again in the text of its query,
so it removes documents of that graph only. An insertion puts a document in its own place, where no document of
another graph stands as long as identifiers are distinct.
-/

namespace TripleIndex

theorem exists_mem_of_forall₂ {α β : Type} {R : α → β → Prop} {xs : List α} {ys : List β}
    (h : List.Forall₂ R xs ys) {x : α} (hx : x ∈ xs) : ∃ y ∈ ys, R x y := by
  induction h with
  | nil => cases hx
  | cons hfirst _ ih =>
    rcases List.mem_cons.1 hx with rfl | hx
    · exact ⟨_, List.mem_cons_self, hfirst⟩
    · obtain ⟨y, hy, hrest⟩ := ih hx
      exact ⟨y, List.mem_cons_of_mem _ hy, hrest⟩

/-! ## Queries for a graph -/

def inGraph (form : String) : Filter := [.term Field.context (.text form)]

variable {form : String} {f : Filter} {g : Term}

theorem graphText_eq (h : graphForm (some g) = .ok form) : Store.graphText g = .ok (inGraph form).text := by
  rw [Store.graphText, h]
  rfl

theorem asks_inGraph (form : String) : ∀ c ∈ inGraph form, c.Asks :=
  List.forall_mem_singleton.2 (show isFieldName Field.context = true from rfl)

theorem holds_inGraph {d : Document} : (inGraph form).holds Schema.triples d = true ↔
    d.lookup Field.context = some (.text form) := by
  rw [Filter.holds, inGraph, List.all_cons, List.all_nil, Bool.and_true]
  exact Clause.holds_text_iff rfl

theorem Clause.ReadBack.eq_of_notMem {name : String} {read : Clause} (htab : '\t' ∉ form.toList)
    (h : (Clause.term name (.text form)).ReadBack read) : read = .term name (.text form) := by
  cases h with
  | term hname h => rw [String.toList_inj.1 (h.eq_of_notMem htab), Scalar.formatted_text]

theorem ofText_inGraph (htab : '\t' ∉ form.toList) : Filter.ofText (inGraph form).text = .ok (inGraph form) := by
  obtain ⟨read, hread, hback⟩ := Filter.ofText_text (asks_inGraph form) (by simp [inGraph])
  obtain ⟨clause, rest, hclause, hrest, rfl⟩ := List.forall₂_cons_left_iff.1 hback
  rw [hread, hclause.eq_of_notMem htab, List.forall₂_nil_left_iff.1 hrest]
  rfl

theorem Filter.isProper_of_readBack {read : Filter} (h : List.Forall₂ Clause.ReadBack f read) : read.IsProper := by
  intro c hc
  cases asksText_of_readBack h c hc with
  | term value hname => trivial
  | range lower upper hname => exact ⟨by simp [Scalar.IsProper], by simp [Scalar.IsProper]⟩

/-! ## Clauses of patterns -/

/-- A clause of the query of a pattern. The tag of a literal may be any value that can be written. -/
def Clause.IsAsked (c : Clause) : Prop :=
  c.IsCompiled ∨ ∃ v : Scalar, v.isWritable = true ∧ c = .term Field.lang v

theorem Clause.IsAsked.asks {c : Clause} (h : c.IsAsked) : c.Asks := by
  rcases h with h | ⟨v, -, rfl⟩
  · exact h.asks
  · exact show isFieldName Field.lang = true from rfl

theorem isWritable_languageField {l : Literal} (h : l.isWritable = true) : (languageField l).isWritable = true := by
  simp only [Literal.isWritable, Bool.and_eq_true] at h
  unfold languageField Literal.language? nonEmpty?
  cases hlanguage : l.language with
  | none => rfl
  | some v =>
    dsimp only
    split
    · simpa [hlanguage] using h.1.2
    · rfl

theorem isWritable_of_literalClause {registry : Registry} {l : Literal} {c : Clause}
    (h : literalClause registry l = .ok c) : l.isWritable = true := by
  unfold literalClause at h
  dsimp only at h
  split at h
  · cases h
  · next hwritable => simpa using hwritable

theorem isAsked_patternClauses {registry : Registry} {p : Pattern} {graph : Option Term}
    (h : patternClauses registry p graph = .ok f) : ∀ c ∈ f, c.IsAsked := by
  obtain ⟨subject, predicate, object, context, hsubject, hpredicate, hobject, -, rfl⟩ := patternClauses_eq_ok h
  have hslot : ∀ {field : String} {t : Term} {f : Filter}, isFieldName field = true →
      Schema.triples.type? field = some .text → slotClauses field t = .ok f → ∀ c ∈ f, c.IsAsked :=
    fun hname htype h c hc => .inl (isCompiled_slotClauses hname htype h c hc)
  have hasked : ∀ c ∈ object, c.IsAsked := by
    unfold objectClauses at hobject
    split at hobject
    · obtain ⟨clause, hclause, hobject⟩ := bind_eq_ok.1 hobject
      cases hobject
      have htag := isWritable_languageField (isWritable_of_literalClause hclause)
      exact List.forall_mem_cons.2 ⟨.inr ⟨_, htag, rfl⟩,
        List.forall_mem_singleton.2 (.inl (isCompiled_literalClause hclause))⟩
    · exact hslot rfl rfl hobject
  simp only [List.forall_mem_append, List.forall_mem_singleton]
  exact ⟨⟨⟨hslot rfl rfl hsubject, hslot rfl rfl hpredicate⟩, hasked⟩, .inl (.text context rfl rfl)⟩

/-! ## Deletions -/

namespace Index

variable {ix : Index} {schema : Schema} {q : Place}

theorem at?_delete (h : ix.Maintained schema fun _ => True) (hf : f.IsProper) (q : Place) :
    (ix.delete f).1.at? q = ix.at? q ∨
      (ix.delete f).1.at? q = none ∧ ∃ d, ix.at? q = some d ∧ f.holds schema d = true := by
  cases heval : ix.evaluate f none with
  | error e =>
    rw [Index.delete, heval]
    exact .inl rfl
  | ok selected =>
    obtain ⟨after, hremove, hdelete⟩ := h.removal_of_evaluate hf heval
    rw [hdelete, at?_removeAll hremove]
    by_cases hq : q ∈ TripleIndex.places selected.toList
    · exact .inr ⟨if_pos hq, (h.mem_evaluate hf heval q).1 hq⟩
    · exact .inl (if_neg hq)

/-- A deletion of what a text selects removes documents of one graph only, if the query has a clause for that
graph. -/
theorem at?_deleteText (h : ix.Maintained Schema.triples fun _ => True) (hasks : ∀ c ∈ f, c.Asks)
    (hmem : .term Field.context (.text form) ∈ f) (htab : '\t' ∉ form.toList) (q : Place) :
    (ix.deleteText f.text).1.at? q = ix.at? q ∨ (ix.deleteText f.text).1.at? q = none ∧
      ∃ d, ix.at? q = some d ∧ d.lookup Field.context = some (.text form) := by
  obtain ⟨read, hread, hback⟩ := Filter.ofText_text hasks (List.ne_nil_of_mem hmem)
  have hproper := Filter.isProper_of_readBack hback
  have hcontext : .term Field.context (.text form) ∈ read := by
    obtain ⟨c, hc, hclause⟩ := exists_mem_of_forall₂ hback hmem
    rwa [hclause.eq_of_notMem htab] at hc
  rw [Index.deleteText, hread]
  rcases at?_delete h hproper q with hkept | ⟨hnone, d, hd, hholds⟩
  · exact .inl hkept
  · exact .inr ⟨hnone, d, hd, (Clause.holds_text_iff rfl).1 (List.all_eq_true.1 hholds _ hcontext)⟩

end Index

/-! ## Steps -/

namespace Store

/-- From one store to another by changes to the documents of one graph. -/
structure Step (quadruples : List Quadruple) (g : Term) (s after : Store) : Prop where
  frame : ∃ ix, after = { s with index := ix }
  within : after.Within quadruples
  outside : ∀ q d, ¬ d.IsIn g → (after.index.at? q = some d ↔ s.index.at? q = some d)

variable {quadruples : List Quadruple} {s next after : Store}

theorem Within.step_self (h : s.Within quadruples) (g : Term) : s.Step quadruples g s :=
  ⟨⟨s.index, rfl⟩, h, fun _ _ _ => Iff.rfl⟩

theorem Step.trans (h : s.Step quadruples g next) (h' : next.Step quadruples g after) :
    s.Step quadruples g after := by
  obtain ⟨ix, rfl⟩ := h.frame
  obtain ⟨ix', rfl⟩ := h'.frame
  exact ⟨⟨ix', rfl⟩, h'.within, fun q d hd => (h'.outside q d hd).trans (h.outside q d hd)⟩

theorem Within.step_insert (h : s.Within quadruples)
    (hdistinct : DistinctIds quadruples) {triple : Pattern} {g : Option Term}
    (hg : (s.graph g).isUntabbed = true)
    (hmem : ∀ d, document s.registry triple (some (s.graph g)) = .ok d → d.quadruple ∈ quadruples)
    (hinsert : s.insert triple g = .ok after) : s.Step quadruples (s.graph g) after := by
  obtain ⟨_, ix, -, -, hframe⟩ := insert_eq_ok hinsert
  obtain ⟨added, hadded, hat⟩ := at?_insert h.reachable hinsert
  rw [← h.reachable.maintained.registry_eq] at hadded
  have hadded_mem := hmem added hadded
  have hregistry : after.registry = s.registry := by rw [hframe]
  -- a document of the new store is the added one or was there before
  have hcases : ∀ q d, after.index.at? q = some d →
      q = added.quadruple.id.place ∧ d = added ∨ s.index.at? q = some d := by
    intro q d hd
    rw [hat] at hd
    by_cases hq : q = added.quadruple.id.place
    · subst hq
      rw [Function.update_self] at hd
      exact .inl ⟨rfl, (Option.some.inj hd).symm⟩
    · rw [Function.update_of_ne hq] at hd
      exact .inr hd
  refine ⟨⟨ix, hframe⟩, ⟨h.reachable.insert hinsert, fun q d hd => ?_, fun q d hd => ?_, fun q d hd => ?_⟩,
    fun q d hd => ?_⟩
  · rcases hcases q d hd with ⟨rfl, rfl⟩ | hd
    · rfl
    · exact h.place q d hd
  · rcases hcases q d hd with ⟨rfl, rfl⟩ | hd
    · exact hadded_mem
    · exact h.mem q d hd
  · rw [hregistry]
    rcases hcases q d hd with ⟨rfl, rfl⟩ | hd
    · exact ⟨triple, s.graph g, hg, hadded⟩
    · exact h.made q d hd
  · constructor
    · intro hafter
      rcases hcases q d hafter with ⟨rfl, rfl⟩ | hbefore
      · exact absurd (isIn_document hadded) hd
      · exact hbefore
    · intro hbefore
      -- a document in the place of the added one is of the same quadruple, and so of the same graph
      have hq : q ≠ added.quadruple.id.place := by
        intro hq
        have hquadruple := h.quadruple_eq hbefore hdistinct hadded_mem hq
        refine hd ⟨_, (forms_of_document hadded).1, ?_⟩
        rw [h.lookup_context hbefore, hquadruple]
      rw [hat, Function.update_of_ne hq, hbefore]

theorem Within.step_insertAll (h : s.Within quadruples)
    (hdistinct : DistinctIds quadruples) {g : Option Term}
    (hg : (s.graph g).isUntabbed = true) {triples : List Pattern}
    (hmem : ∀ triple ∈ triples, ∀ d, document s.registry triple (some (s.graph g)) = .ok d →
      d.quadruple ∈ quadruples) : s.Step quadruples (s.graph g) (s.insertAll g triples).1 := by
  -- a triple that is refused leaves the store alone, and one that cannot be named ends the batch
  induction triples generalizing s with
  | nil => exact h.step_self _
  | cons triple triples ih =>
    have hrest := fun triple htriple => hmem triple (List.mem_cons_of_mem _ htriple)
    unfold Store.insertAll
    split
    · next next hinsert =>
      have hstep := h.step_insert hdistinct hg (hmem triple List.mem_cons_self) hinsert
      obtain ⟨ix, rfl⟩ := hstep.frame
      exact hstep.trans (ih hstep.within hg hrest)
    · split
      · exact ih h hg hrest
      · exact h.step_self _

theorem Within.step_removeText (h : s.Within quadruples) (hg : g.isUntabbed = true)
    {text : Except Fault String} (hafter : Reachable .default (s.removeText text).1)
    (htext : ∀ t, text = .ok t → ∃ f form, t = Filter.text f ∧ (∀ c ∈ f, c.Asks) ∧
      graphForm (some g) = .ok form ∧ .term Field.context (.text form) ∈ f) :
    s.Step quadruples g (s.removeText text).1 := by
  cases text with
  | error e => exact h.step_self g
  | ok text =>
    obtain ⟨f, form, rfl, hasks, hform, hmem⟩ := htext text rfl
    have hat := Index.at?_deleteText h.reachable.maintained.index hasks hmem ((Term.isUntabbed_iff hform).1 hg)
    have hindex : (s.removeText (.ok f.text)).1 = { s with index := (s.index.deleteText f.text).1 } := rfl
    have hbefore : ∀ q d, (s.index.deleteText f.text).1.at? q = some d → s.index.at? q = some d := by
      intro q d hd
      rcases hat q with hkept | ⟨hnone, -⟩
      · rwa [hkept] at hd
      · rw [hnone] at hd
        cases hd
    rw [hindex] at hafter ⊢
    refine ⟨⟨_, rfl⟩, ⟨hafter, fun q d hd => h.place q d (hbefore q d hd), fun q d hd => h.mem q d (hbefore q d hd),
      fun q d hd => h.made q d (hbefore q d hd)⟩, fun q d hd => ⟨hbefore q d, fun hfound => ?_⟩⟩
    rcases hat q with hkept | ⟨-, d', hd', hcontext⟩
    · exact hkept.trans hfound
    · cases hfound.symm.trans hd'
      exact absurd ⟨form, hform, hcontext⟩ hd

theorem Within.step_delete (h : s.Within quadruples) {g : Option Term}
    (hg : (s.graph g).isUntabbed = true) (p : Pattern) : s.Step quadruples (s.graph g) (s.delete p g).1 := by
  refine h.step_removeText hg (h.reachable.delete p g) fun t ht => ?_
  unfold TripleIndex.deleteText at ht
  split at ht
  · next f hf =>
    cases ht
    obtain ⟨form, hform, hmem⟩ := Index.context_mem_of_patternClauses hf
    exact ⟨f, form, rfl, fun c hc => (isAsked_patternClauses hf c hc).asks, hform, hmem⟩
  · split at ht <;> cases ht

theorem Within.step_clear (h : s.Within quadruples) {g : Option Term}
    (hg : (s.graph g).isUntabbed = true) : s.Step quadruples (s.graph g) (s.clear g).1 := by
  refine h.step_removeText hg (h.reachable.clear g) fun t ht => ?_
  obtain ⟨form, hform, rfl⟩ := map_eq_ok.1 ht
  exact ⟨inGraph form, form, rfl, asks_inGraph form, hform, List.mem_singleton_self _⟩

theorem quadruple_mem {c : Call} {triple : Pattern} {d : Document} (htriple : triple ∈ c.triples)
    (hd : document s.registry triple (some (s.graph c.graph)) = .ok d) : d.quadruple ∈ s.quadruples c :=
  List.mem_filterMap.2 ⟨triple, htriple, by rw [hd]; rfl⟩

theorem Within.step_call (h : s.Within quadruples)
    (hdistinct : DistinctIds quadruples) {c : Call}
    (hc : (s.graph c.graph).isUntabbed = true) (hmem : ∀ q ∈ s.quadruples c, q ∈ quadruples) :
    s.Step quadruples (s.graph c.graph) (s.call c) := by
  have hadded : ∀ triple ∈ c.triples, ∀ d, document s.registry triple (some (s.graph c.graph)) = .ok d →
      d.quadruple ∈ quadruples := fun triple htriple d hd => hmem _ (quadruple_mem htriple hd)
  cases c with
  | insert triple g =>
    cases hinsert : s.insert triple g with
    | ok after =>
      have hcall : s.call (.insert triple g) = after := by simp only [Store.call, hinsert]
      rw [hcall]
      exact h.step_insert hdistinct hc (hadded triple (List.mem_singleton_self _)) hinsert
    | error e =>
      have hcall : s.call (.insert triple g) = s := by simp only [Store.call, hinsert]
      rw [hcall]
      exact h.step_self _
  | insertMany triples g => exact h.step_insertAll hdistinct hc hadded
  | delete p g => exact h.step_delete hc p
  | clear g => exact h.step_clear hc

/-! ## Runs -/

/-- Calls leave everything but the index as it is, and no documents but theirs come into it. -/
theorem Within.callAll (h : s.Within quadruples)
    (hdistinct : DistinctIds quadruples) {calls : List Call}
    (huntabbed : ∀ c ∈ calls, (s.graph c.graph).isUntabbed = true)
    (hmem : ∀ q ∈ calls.flatMap s.quadruples, q ∈ quadruples) :
    (∃ ix, s.callAll calls = { s with index := ix }) ∧ (s.callAll calls).Within quadruples := by
  -- a call changes the index only, so later calls name the same graphs and add the same documents
  induction calls generalizing s with
  | nil => exact ⟨⟨s.index, rfl⟩, h⟩
  | cons c calls ih =>
    rw [List.flatMap_cons] at hmem
    have hstep := h.step_call hdistinct (huntabbed c List.mem_cons_self)
      fun q hq => hmem q (List.mem_append_left _ hq)
    obtain ⟨ix, hframe⟩ := hstep.frame
    have hwithin := hstep.within
    have hcalls : s.callAll (c :: calls) = (s.call c).callAll calls := rfl
    rw [hcalls]
    rw [hframe] at hwithin ⊢
    obtain ⟨⟨ix', hframe'⟩, hafter⟩ := ih hwithin
      (fun c hc => huntabbed c (List.mem_cons_of_mem _ hc)) fun q hq => hmem q (List.mem_append_right _ hq)
    exact ⟨⟨ix', hframe'⟩, hafter⟩

end Store

end TripleIndex
