import TripleIndex.Proofs.Stores.Pages
import TripleIndex.Proofs.Stores.SearchFields

/-!
Finding again what has been found. The triple that is read from a document selects part of what the pattern has
selected that it was found with, the document among it, if no term of it has lost anything. All of that part can be
read, as far as the first search has come.
-/

namespace TripleIndex

/-! ## Reading the documents again -/

section Reading

variable {d e : Document} {p t triple : Pattern} {graph : Term} {r : Reader} {id i : DocId}

theorem tripleOf_of_slotTerms {subject predicate object : Term} (hsubject : slotTerm d .subject = .ok subject)
    (hpredicate : slotTerm d .predicate = .ok predicate) (hobject : slotTerm d .object = .ok object) :
    tripleOf d = .ok ⟨subject, predicate, object⟩ := by
  rw [tripleOf, hsubject, hpredicate, hobject]
  rfl

theorem tripleOf_document (hkept : triple.IsKept) (h : document .default triple (some graph) = .ok d) :
    tripleOf d = .ok triple.kept := by
  obtain ⟨-, hsubject, hpredicate, hobject⟩ := forms_of_document h
  obtain ⟨-, hsubject', hpredicate', hobject'⟩ := lookup_of_document h
  have hterm : ∀ {slot : Slot} {t : Term} {form : String}, t.IsKept → t.form = .ok form →
      d.lookup slot.field = some (.text form) → slotTerm d slot = .ok t.kept :=
    fun hkept hform hlookup => (slotTerm_eq hlookup).trans (Term.ofForm_kept hkept hform).1
  exact tripleOf_of_slotTerms (hterm hkept.subject hsubject hsubject')
    (hterm hkept.predicate hpredicate hpredicate') (hterm hkept.object hobject hobject')

theorem bindSlots_congr {slots : List (Slot × Term)} (h : ∀ x ∈ slots, slotTerm e x.1 = slotTerm d x.1)
    (seen b : Binding) : bindSlots e slots seen b = bindSlots d slots seen b := by
  induction slots generalizing seen b with
  | nil => rfl
  | cons x slots ih =>
    obtain ⟨hx, hrest⟩ := List.forall_mem_cons.1 h
    obtain ⟨slot, t⟩ := x
    cases t with
    | var name =>
      rw [bindSlots, bindSlots, hx]
      simp only [ih hrest]
    | _ => exact ih hrest seen b

/-- Variables of a document that has bound nothing before are the ones that are bound. -/
theorem bindSlots_append (front back : List (Slot × Term)) (b : Binding) :
    bindSlots d (front ++ back) b b = (bindSlots d front b b).bind fun found =>
      match found with
      | none => .ok none
      | some b => bindSlots d back b b := by
  -- what the document has bound is all that is bound, so one binding stands for both
  induction front generalizing b with
  | nil => rfl
  | cons x front ih =>
    obtain ⟨slot, t⟩ := x
    cases t with
    | var name =>
      rw [List.cons_append, bindSlots, bindSlots]
      cases slotTerm d slot with
      | error e => rfl
      | ok t =>
        simp only [ok_bind]
        split
        · exact ih _
        · rfl
    | _ => exact ih b

theorem bindSlots_of_noVariables {slots : List (Slot × Term)} (h : ∀ x ∈ slots, ∀ name, x.2 ≠ .var name)
    (seen b : Binding) : bindSlots d slots seen b = .ok (some b) := by
  induction slots with
  | nil => rfl
  | cons x slots ih =>
    obtain ⟨hx, hrest⟩ := List.forall_mem_cons.1 h
    obtain ⟨slot, t⟩ := x
    cases t with
    | var name => exact absurd rfl (hx name)
    | _ => exact ih hrest

theorem Term.ne_var_of_form {t : Term} {form : String} (h : t.form = .ok form) (name : String) : t ≠ .var name := by
  rintro rfl
  cases h

theorem bindDocument_kept (hkept : triple.IsKept) (hd : document .default triple (some graph) = .ok d)
    (e : Document) : bindDocument triple.kept e [] = .ok (some []) := by
  obtain ⟨-, hsubject, hpredicate, hobject⟩ := forms_of_document hd
  have hslots : triple.kept.slots =
      [(.subject, triple.subject.kept), (.predicate, triple.predicate.kept), (.object, triple.object.kept)] := rfl
  refine bindSlots_of_noVariables ?_ [] []
  simp only [hslots, List.forall_mem_cons]
  exact ⟨Term.ne_var_of_form (Term.ofForm_kept hkept.subject hsubject).2,
    Term.ne_var_of_form (Term.ofForm_kept hkept.predicate hpredicate).2,
    Term.ne_var_of_form (Term.ofForm_kept hkept.object hobject).2, by simp⟩

theorem slotTerm_congr {slot : Slot} (h : e.lookup slot.field = d.lookup slot.field) :
    slotTerm e slot = slotTerm d slot := by
  unfold slotTerm slotForm
  rw [h]

theorem matchingTriple_of_read (h : r.read id = .ok d) : matchingTriple r p id =
    (bindDocument p d []).bind fun found =>
      match found with
      | none => .ok none
      | some _ => (tripleOf d).map some := by
  rw [matchingTriple, h]
  show (bindDocument p d [] >>= _) = _
  cases bindDocument p d [] with
  | error e => rfl
  | ok found => cases found <;> rfl

theorem matchingTriple_eq_ok (h : r.read id = .ok d) (hmatches : matchingTriple r p id = .ok (some t)) :
    (∃ b, bindDocument p d [] = .ok (some b)) ∧ tripleOf d = .ok t := by
  rw [matchingTriple_of_read h] at hmatches
  obtain ⟨bound, hbound, hmatches⟩ := bind_eq_ok.1 (show bindDocument p d [] >>= _ = _ from hmatches)
  cases bound with
  | none => cases hmatches
  | some b =>
    obtain ⟨u, hu, hut⟩ := map_eq_ok.1 (show Except.map some (tripleOf d) = _ from hmatches)
    cases hut
    exact ⟨⟨b, hbound⟩, hu⟩

theorem slotTerms_of_tripleOf (h : tripleOf d = .ok t) : slotTerm d .subject = .ok t.subject ∧
    slotTerm d .predicate = .ok t.predicate ∧ slotTerm d .object = .ok t.object := by
  obtain ⟨subject, hsubject, h⟩ := bind_eq_ok.1 h
  obtain ⟨predicate, hpredicate, h⟩ := bind_eq_ok.1 h
  obtain ⟨object, hobject, h⟩ := bind_eq_ok.1 h
  cases h
  exact ⟨hsubject, hpredicate, hobject⟩

/-- A document that the search for a pattern comes past can be read as a triple, if it has the subject and the
predicate of one that matches. -/
theorem exists_tripleOf (hd : r.read id = .ok d) (he : r.read i = .ok e)
    (hmatches : matchingTriple r p id = .ok (some t)) (hpast : ComesPast r p i)
    (hsubject : slotTerm e .subject = slotTerm d .subject)
    (hpredicate : slotTerm e .predicate = slotTerm d .predicate) : ∃ u, tripleOf e = .ok u := by
  obtain ⟨⟨b, hbound⟩, hu⟩ := matchingTriple_eq_ok hd hmatches
  obtain ⟨found, hpast⟩ := hpast
  rw [matchingTriple_of_read he] at hpast
  obtain ⟨bound, hbound', hpast⟩ := bind_eq_ok.1 (show bindDocument p e [] >>= _ = _ from hpast)
  cases bound with
  | some b' =>
    obtain ⟨v, hv, -⟩ := map_eq_ok.1 (show Except.map some (tripleOf e) = _ from hpast)
    exact ⟨v, hv⟩
  | none =>
    -- the slots before the object agree with those of the other document, so the object has been read
    obtain ⟨hdsubject, hdpredicate, -⟩ := slotTerms_of_tripleOf hu
    have hslots : p.slots = [(.subject, p.subject), (.predicate, p.predicate)] ++ [(.object, p.object)] := rfl
    rw [bindDocument, hslots, bindSlots_append] at hbound hbound'
    rw [bindSlots_congr (d := d) (by simp [hsubject, hpredicate])] at hbound'
    obtain ⟨front, hfront, hbound⟩ := bind_eq_ok.1 (show bindSlots d _ [] [] >>= _ = _ from hbound)
    rw [hfront] at hbound'
    cases front with
    | none => cases hbound
    | some b =>
      have hobject : ∃ object, slotTerm e .object = .ok object := by
        replace hbound' : bindSlots e [(.object, p.object)] b b = .ok none := hbound'
        cases hp : p.object with
        | var name =>
          rw [hp, bindSlots] at hbound'
          obtain ⟨object, hobject, -⟩ := bind_eq_ok.1 hbound'
          exact ⟨object, hobject⟩
        | _ =>
          rw [hp] at hbound'
          cases hbound'
      obtain ⟨object, hobject⟩ := hobject
      exact ⟨_, tripleOf_of_slotTerms (hsubject.trans hdsubject) (hpredicate.trans hdpredicate) hobject⟩

end Reading

/-! ## The search for what has been found -/

theorem Pattern.IsKept.isMade {triple : Pattern} (h : triple.IsKept) : triple.IsMade := fun l hl =>
  Literal.IsKept.made (show (Term.literal l).IsKept from hl ▸ h.object)

theorem IdSet.mem_of_text {ids : IdSet} {name : String} (h : Place.text name ∈ ids) :
    Scalar.text name ∈ ids.toList := by
  obtain ⟨id, hid, hplace⟩ := List.mem_map.1 h
  exact Scalar.eq_text_of_place hplace ▸ hid

theorem IdSet.mem_front {ids ids' : IdSet} {id : DocId} {front back front' back' : List DocId}
    (h : ids.toList = front ++ id :: back) (h' : ids'.toList = front' ++ id :: back')
    (hsub : ∀ i ∈ front', i ∈ ids.toList) : ∀ i ∈ front', i ∈ front := by
  intro i hi
  have hasc := ids.ascending
  have hasc' := ids'.ascending
  rw [Ascending, h] at hasc
  rw [Ascending, h'] at hasc'
  have hlt : i.place < id.place := (List.pairwise_append.1 hasc').2.2 i hi id List.mem_cons_self
  have hlater := (List.pairwise_cons.1 (List.pairwise_append.1 hasc).2.1).1
  have hlisted := hsub i hi
  rw [h, List.mem_append, List.mem_cons] at hlisted
  rcases hlisted with hlisted | rfl | hlisted
  · exact hlisted
  · exact absurd hlt (lt_irrefl _)
  · exact absurd hlt (lt_asymm (hlater i hlisted))

namespace Store

variable {s : Store} {p t triple : Pattern} {g : Option Term} {graph : Term} {selected : IdSet} {id : DocId}
  {d : Document}

theorem Reachable.mem_goesThrough (hs : s.Reachable .default) (hp : p.IsMade) (h : s.GoesThrough p g selected) :
    ∃ f, patternClauses .default p (some (s.graph g)) = .ok f ∧
      ∀ q, q ∈ selected ↔ ∃ d, s.index.at? q = some d ∧ ∀ c ∈ f, c.holds Schema.triples d = true := by
  obtain ⟨⟨f, hcompile, heval⟩, -⟩ := h
  rw [hs.maintained.registry_eq, compile_eq_ok] at hcompile
  refine ⟨f, hcompile, fun q => ?_⟩
  rw [hs.maintained.index.mem_evaluate (isProper_patternClauses hp hcompile) heval]
  simp only [Filter.holds, List.all_eq_true]

theorem Reachable.exists_goesThrough (hs : s.Reachable .default) {f : Filter}
    (hclauses : patternClauses .default p (some (s.graph g)) = .ok f) (hf : ∀ c ∈ f, c.IsCompiled)
    (hpages : ∃ rows, s.pageSize.count = .ok rows) : ∃ selected, s.GoesThrough p g selected ∧
      ∀ q, q ∈ selected ↔ ∃ d, s.index.at? q = some d ∧ ∀ c ∈ f, c.holds Schema.triples d = true := by
  have hsuits : f.Suits Schema.triples := fun c hc => Clause.IsAsked.suits (.inl (hf c hc))
  have hproper : f.IsProper := fun c hc => (hf c hc).isProper
  obtain ⟨selected, heval⟩ := hs.maintained.index.exists_evaluate hsuits none
  have hcompile : compile s.registry p (some (s.graph g)) = .ok f := by
    rw [hs.maintained.registry_eq, compile_eq_ok]
    exact hclauses
  refine ⟨selected, ⟨⟨f, hcompile, heval⟩, hpages⟩, fun q => ?_⟩
  rw [hs.maintained.index.mem_evaluate hproper heval]
  simp only [Filter.holds, List.all_eq_true]

/-- The triple of a selected document selects part of what has been selected, the document among it. -/
theorem Reachable.exists_narrowed (hs : s.Reachable .default) (hp : p.IsMade) (h : s.GoesThrough p g selected)
    (hselected : id.place ∈ selected) (hat : s.index.at? id.place = some d)
    (hd : document .default triple (some graph) = .ok d) (hkept : triple.IsKept) : ∃ narrowed,
      s.GoesThrough triple.kept g narrowed ∧ id.place ∈ narrowed ∧ ∀ q ∈ narrowed, q ∈ selected ∧
        ∃ e, s.index.at? q = some e ∧ e.lookup Field.subject = d.lookup Field.subject ∧
          e.lookup Field.predicate = d.lookup Field.predicate := by
  obtain ⟨f, hclauses, hmem⟩ := hs.mem_goesThrough hp h
  obtain ⟨d', hd', hholds⟩ := (hmem id.place).1 hselected
  cases hat.symm.trans hd'
  obtain ⟨hcontext, hsubject, hpredicate, -⟩ := lookup_of_document hd
  obtain ⟨form, hform, hasked⟩ := Index.context_mem_of_patternClauses hclauses
  have hfound := (Clause.holds_text_iff rfl).1 (hholds _ hasked)
  rw [hcontext] at hfound
  cases hfound
  obtain ⟨f', hclauses', hf'⟩ := exists_patternClauses_kept hkept hd hform
  have hcompiled := isCompiled_document hd
  have hholds' := holds_of_lookup hcompiled hf'
  obtain ⟨narrowed, hnarrowed, hmem'⟩ := hs.exists_goesThrough hclauses' (fun c hc => (hholds' c hc).1) h.2
  refine ⟨narrowed, hnarrowed, (hmem' id.place).2 ⟨d, hat, fun c hc => (hholds' c hc).2⟩, fun q hq => ?_⟩
  obtain ⟨e, he, hall⟩ := (hmem' q).1 hq
  have htext : ∀ {name text}, Schema.triples.type? name = some .text → name ∈ triple.searchFields →
      d.lookup name = some (.text text) → e.lookup name = d.lookup name := by
    intro name text htype hname hlookup
    rw [hlookup]
    exact (Clause.holds_text_iff htype).1 (hall _ ((hf' _).2 ⟨name, hname, _, hlookup, rfl⟩))
  refine ⟨(hmem q).2 ⟨e, he, fun c hc => ?_⟩, e, he, htext rfl (by simp [Pattern.searchFields]) hsubject,
    htext rfl (by simp [Pattern.searchFields]) hpredicate⟩
  obtain ⟨name, hname, v, rfl⟩ := searchFields_of_holds hp hkept.isMade hd hclauses hholds c hc
  exact holds_trans hcompiled hf' hall hname (hholds _ hc)

theorem Reachable.mem_toList (hs : s.Reachable .default) (h : s.GoesThrough p g selected)
    (hselected : id.place ∈ selected) : id ∈ selected.toList := by
  obtain ⟨name, hname⟩ := hs.text_of_goesThrough h hselected
  rw [Scalar.eq_text_of_place hname]
  exact IdSet.mem_of_text (hname ▸ hselected)

theorem Reachable.made (hs : s.Reachable .default) :
    ∀ e ∈ s.index.documents, ∃ triple graph, document .default triple (some graph) = .ok e.2.fields := by
  refine hs.store_induction (P := fun s => ∀ e ∈ s.index.documents, ∃ triple graph,
    document .default triple (some graph) = .ok e.2.fields) (fun _ _ hindex => ?_) (fun h ih hd hwrite => ?_)
    fun f ih e he => ?_
  · rw [hindex]
    exact fun e he => by cases he
  · have hmaintained := h.maintained
    rw [hmaintained.registry_eq] at hd
    obtain ⟨graph, rfl⟩ := exists_graph_of_document hd
    obtain ⟨stored, hstored, rfl⟩ := Index.write_eq_ok hwrite
    rw [hmaintained.index.schema_eq, (isCompiled_document hd).convertAll_eq] at hstored
    cases hstored
    intro e he
    obtain ⟨first, hdocuments, -⟩ := Index.documents_put ..
    rw [hdocuments, Table.put, Table.without_eq_filter] at he
    rcases List.mem_cons.1 he with rfl | he
    · exact ⟨_, graph, hd⟩
    · exact ih e (List.mem_of_mem_filter he)
  · exact ih e (Index.mem_of_mem_documents_delete he)

theorem Reachable.document_of_yields (hs : s.Reachable .default) (hyields : s.Yields p g id t) :
    ∃ d, s.index.at? id.place = some d ∧ ∃ triple graph, document .default triple (some graph) = .ok d := by
  obtain ⟨selected, front, back, hthrough, hsplit, -⟩ := hyields
  have hselected : id.place ∈ selected := List.mem_map_of_mem (by simp [hsplit])
  obtain ⟨d, hat⟩ := hs.stored_of_goesThrough hthrough hselected
  obtain ⟨filed, hfiled, rfl⟩ := Option.map_eq_some_iff.1 hat
  exact ⟨_, hat, hs.made _ (Table.mem_of_lookup hfiled)⟩

/-- What has been yielded from the document of a triple that loses nothing is yielded again from it. And if the
first search comes to its end, so does the second one. -/
theorem Yields.again (hs : s.Reachable .default) (hp : p.IsMade) (hyields : s.Yields p g id t)
    (hat : s.index.at? id.place = some d) (hd : document .default triple (some graph) = .ok d)
    (hkept : triple.IsKept) :
    s.Yields t g id t ∧ ((s.find p g).fault = none → (s.find t g).fault = none) := by
  obtain ⟨selected, front, back, hthrough, hsplit, hfront, hmatches⟩ := hyields
  have hselected : id.place ∈ selected := List.mem_map_of_mem (by simp [hsplit])
  obtain ⟨narrowed, hnarrowed, hmem, hsub⟩ := hs.exists_narrowed hp hthrough hselected hat hd hkept
  have hread := read_eq_ok hat
  have htriple : tripleOf d = .ok triple.kept := tripleOf_document hkept hd
  obtain rfl : triple.kept = t := Except.ok.inj (htriple.symm.trans (matchingTriple_eq_ok hread hmatches).2)
  have hconcrete := bindDocument_kept hkept hd
  have hlisted : ∀ i ∈ narrowed.toList, i ∈ selected.toList := fun i hi =>
    hs.mem_toList hthrough (hsub i.place (List.mem_map_of_mem hi)).1
  have hpast : ∀ i ∈ narrowed.toList, ComesPast (.opened s.index) p i →
      ComesPast (.opened s.index) triple.kept i := by
    intro i hi hpast
    obtain ⟨-, e, he, hsubject, hpredicate⟩ := hsub i.place (List.mem_map_of_mem hi)
    obtain ⟨u, hu⟩ := exists_tripleOf hread (read_eq_ok he) hmatches hpast (slotTerm_congr hsubject)
      (slotTerm_congr hpredicate)
    exact ⟨some u, by rw [matchingTriple_of_read (read_eq_ok he), hconcrete, hu]; rfl⟩
  have hagain : s.Yields triple.kept g id triple.kept := by
    obtain ⟨front', back', hsplit'⟩ := List.append_of_mem (hs.mem_toList hnarrowed hmem)
    have hfront' : ∀ i ∈ front', i ∈ narrowed.toList := fun i hi => by simp [hsplit', hi]
    refine ⟨narrowed, front', back', hnarrowed, hsplit', fun i hi => hpast i (hfront' i hi) (hfront i ?_), ?_⟩
    · exact IdSet.mem_front hsplit hsplit' (fun i hi => hlisted i (hfront' i hi)) i hi
    · rw [matchingTriple_of_read hread, hconcrete, htriple]
      rfl
  refine ⟨hagain, fun hfault => ?_⟩
  rw [hs.find_eq hthrough, fault_findInPage] at hfault
  rw [hs.find_eq hnarrowed, fault_findInPage]
  exact fun i hi => hpast i hi (hfault i (hlisted i hi))

/-- What a search finds it yields from documents of triples. If such a triple loses nothing, what has been found is
found again from the same document, and without a fault if the first search has none. -/
theorem find_again (hs : s.Reachable .default) (hp : p.IsMade) (g : Option Term) :
    (∀ t, t ∈ (s.find p g).triples ↔ ∃ id, s.Yields p g id t) ∧
    ∀ id t, s.Yields p g id t → ∃ d, s.index.at? id.place = some d ∧
      (∃ triple graph, document .default triple (some graph) = .ok d) ∧
      ∀ triple graph, document .default triple (some graph) = .ok d → triple.IsKept →
        t ∈ (s.find t g).triples ∧ s.Yields t g id t ∧
          ((s.find p g).fault = none → (s.find t g).fault = none) := by
  refine ⟨fun t => hs.mem_triples_find, fun id t hyields => ?_⟩
  obtain ⟨d, hat, triple, graph, hd⟩ := hs.document_of_yields hyields
  refine ⟨d, hat, ⟨triple, graph, hd⟩, fun triple graph hd hkept => ?_⟩
  obtain ⟨hagain, hfault⟩ := hyields.again hs hp hat hd hkept
  exact ⟨hs.mem_triples_find.2 ⟨id, hagain⟩, hagain, hfault⟩

def objects : Pattern := { stated "" with object := .var "o" }

/-- With one triple stored, what the search for the objects yields from its document passes a test. -/
def yielded (stored : Pattern) (test : Store → Pattern → Bool) : Except Fault Bool := do
  let s ← (← Store.make .default .default).insert stored none
  let d ← document .default stored (some (s.graph none))
  let selected ← s.index.evaluate (← compile s.registry objects (some (s.graph none))) none
  let _ ← s.pageSize.count
  match ← matchingTriple (.opened s.index) objects d.quadruple.id with
  | none => return false
  | some t => return selected.toList = [d.quadruple.id] && s.index.at? d.quadruple.id.place = some d && test s t

theorem yields_of_run (stored : Pattern) (test : Store → Pattern → Bool)
    (h : (yielded stored test).toOption = some true) : ∃ (s : Store) (d : Document) (t : Pattern),
      s.Reachable .default ∧ document .default stored (some (s.graph none)) = .ok d ∧
      s.index.at? d.quadruple.id.place = some d ∧ s.Yields objects none d.quadruple.id t ∧ test s t = true := by
  obtain ⟨empty, hempty, h⟩ := bind_eq_ok.1 (toOption_eq_some.1 h)
  obtain ⟨s, hs, h⟩ := bind_eq_ok.1 h
  obtain ⟨d, hd, h⟩ := bind_eq_ok.1 h
  obtain ⟨f, hf, h⟩ := bind_eq_ok.1 h
  obtain ⟨selected, hselected, h⟩ := bind_eq_ok.1 h
  obtain ⟨rows, hrows, h⟩ := bind_eq_ok.1 h
  obtain ⟨found, hfound, h⟩ := bind_eq_ok.1 h
  cases found with
  | none => cases h
  | some t =>
    have h := Except.ok.inj h
    simp only [Bool.and_eq_true, decide_eq_true_eq] at h
    obtain ⟨⟨hlist, hat⟩, htest⟩ := h
    exact ⟨s, d, t, .insert (.make hempty) hs, hd, hat,
      ⟨selected, [], [], ⟨⟨f, hf, hselected⟩, rows, hrows⟩, hlist, by simp, hfound⟩, htest⟩

theorem find_again_padded : ∃ (s : Store) (d : Document) (t : Pattern), s.Reachable .default ∧ objects.IsMade ∧
    document .default (holding (typed "int" "05")) (some (s.graph none)) = .ok d ∧
    s.Yields objects none d.quadruple.id t ∧ t ∈ (s.find objects none).triples ∧
    t ∈ (s.find t none).triples ∧ s.Yields t none d.quadruple.id t := by
  obtain ⟨s, d, t, hs, hd, hat, hyields, -⟩ :=
    yields_of_run (holding (typed "int" "05")) (fun _ _ => true) (by decide +kernel)
  have hmade : objects.IsMade := fun l hl => by cases hl
  have hkept : (typed "int" "05").IsKept :=
    Literal.isKept_of_encode (isMade_typed "int" "05") (by decide) (show _ = Except.ok _ from rfl)
  obtain ⟨hfinds, hagain⟩ := find_again hs hmade none
  obtain ⟨d', hat', -, hagain⟩ := hagain _ _ hyields
  cases hat.symm.trans hat'
  obtain ⟨hmem, hyields', -⟩ := hagain _ _ hd ⟨trivial, trivial, hkept⟩
  exact ⟨s, d, t, hs, hmade, hd, hyields, (hfinds t).2 ⟨_, hyields⟩, hmem, hyields'⟩

/-- A text is found by a variable and not by itself, if its datatype leaves out the white space around it. -/
theorem find_again_spaced : ∃ (s : Store) (d : Document) (t : Pattern), s.Reachable .default ∧
    document .default (holding (typed "token" " a ")) (some (s.graph none)) = .ok d ∧
    s.index.at? d.quadruple.id.place = some d ∧ s.Yields objects none d.quadruple.id t ∧
    (s.find t none).triples = [] ∧ (s.find t none).fault = none := by
  obtain ⟨s, d, t, hs, hd, hat, hyields, htest⟩ := yields_of_run (holding (typed "token" " a "))
    (fun s t => (s.find t none).triples.isEmpty && (s.find t none).fault.isNone) (by decide +kernel)
  rw [Bool.and_eq_true, List.isEmpty_iff, Option.isNone_iff_eq_none] at htest
  exact ⟨s, d, t, hs, hd, hat, hyields, htest⟩

end Store

end TripleIndex
