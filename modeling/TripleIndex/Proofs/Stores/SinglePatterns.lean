import TripleIndex.Proofs.Join.Order
import TripleIndex.Proofs.Join.Visits
import TripleIndex.Proofs.Stores.Discoveries

/-!
One pattern, searched for and queried. A search evaluates its query again for every page and goes on after a
mark, a query evaluates it once and cuts the pages out of what it has selected. Both visit what is selected in
its order, each document once. Of a document both ask the same, whether it binds the variables of the pattern,
and then one of them gives its triple and the other the binding, which reads the variables off the triple.
-/

namespace TripleIndex

/-! ## Bindings that read a triple -/

/-- A binding that has the variables of a pattern, each with the term that stands in its slots of a triple. -/
structure Binding.Reads (b : Binding) (p t : Pattern) : Prop where
  nodup : (b.map Prod.fst).Nodup
  has_iff : ∀ name, b.has name = true ↔ name ∈ p.variableSlots
  get?_eq : ∀ slot name u, (slot, .var name) ∈ p.slots → (slot, u) ∈ t.slots → b.get? name = some u

/-- A binding after the variables of slots have been bound to the terms of a document. -/
structure Binding.Binds (d : Document) (slots : List (Slot × Term)) (before b : Binding) : Prop where
  nodup : (before.map Prod.fst).Nodup → (b.map Prod.fst).Nodup
  has_iff : ∀ name, b.has name = true ↔ before.has name = true ∨ ∃ slot, (slot, .var name) ∈ slots
  kept : ∀ name t, before.get? name = some t → b.get? name = some t
  get?_eq : ∀ slot name t, (slot, .var name) ∈ slots → slotTerm d slot = .ok t → b.get? name = some t

section Reads

variable {d : Document} {p t : Pattern} {b : Binding} {name : String} {u : Term}

theorem Binding.has_bind (b : Binding) (name : String) (u : Term) (other : String) :
    (b.bind name u).has other = true ↔ b.has other = true ∨ other = name := by
  by_cases hother : other = name
  · subst hother
    simp [has, get?_bind_self]
  · rw [has, get?_bind_of_ne hother, ← has]
    simp [hother]

theorem Binding.nodup_bind (h : (b.map Prod.fst).Nodup) (name : String) (u : Term) :
    ((b.bind name u).map Prod.fst).Nodup := by
  unfold bind
  split
  · exact h
  · next hnew =>
    have hnew : name ∉ b.map Prod.fst :=
      Table.lookup_eq_none_iff_not_mem.1 (Option.not_isSome_iff_eq_none.1 hnew)
    rw [List.map_append, List.nodup_append]
    refine ⟨h, List.nodup_singleton name, ?_⟩
    rintro other hother _ hname rfl
    rw [List.mem_singleton.1 hname] at hother
    exact hnew hother

theorem isTextual_of_slotTerm {slot : Slot} (h : slotTerm d slot = .ok u) : u.IsTextual := by
  obtain ⟨form, -, h⟩ := bind_eq_ok.1 h
  exact Term.isTextual_of_ofForm h

theorem Binding.Binds.cons_var {slots : List (Slot × Term)} {slot : Slot} {b' : Binding}
    (hu : slotTerm d slot = .ok u) (hsame : (b.get? name).getD u = u) (h : (b.bind name u).Binds d slots b') :
    b.Binds d ((slot, .var name) :: slots) b' := by
  have hbound : (b.bind name u).get? name = some u := by rw [b.get?_bind_self, hsame]
  refine ⟨fun hnodup => h.nodup (b.nodup_bind hnodup name u), fun other => ?_, fun other v hv => ?_, ?_⟩
  · rw [h.has_iff, has_bind, or_assoc]
    simp [exists_or]
  · refine h.kept other v ?_
    by_cases hother : other = name
    · rw [hother] at hv ⊢
      rw [hbound, ← hsame, hv, Option.getD_some]
    · rw [get?_bind_of_ne hother, hv]
  · intro slot' other v hmem hv
    rcases List.mem_cons.1 hmem with heq | hmem
    · cases heq
      cases hu.symm.trans hv
      exact h.kept name u hbound
    · exact h.get?_eq slot' other v hmem hv

theorem Binding.isTextual_bind (hb : ∀ name u, b.get? name = some u → u.IsTextual) (hu : u.IsTextual) :
    ∀ other v, (b.bind name u).get? other = some v → v.IsTextual := by
  intro other v hv
  by_cases hother : other = name
  · rw [hother, get?_bind_self, Option.some.injEq] at hv
    subst hv
    cases hget : b.get? name with
    | none => exact hu
    | some w => exact hb name w hget
  · rw [get?_bind_of_ne hother] at hv
    exact hb other v hv

/-- Slots that can be read bind their variables, unless two of them give one variable two terms. -/
theorem bindSlots_binds {slots : List (Slot × Term)} (hread : ∀ slot, ∃ u, slotTerm d slot = .ok u)
    (hb : ∀ name u, b.get? name = some u → u.IsTextual) :
    ∃ found, bindSlots d slots b b = .ok found ∧ ∀ b' ∈ found, b.Binds d slots b' := by
  induction slots generalizing b with
  | nil =>
    refine ⟨some b, rfl, ?_⟩
    rintro _ ⟨⟩
    exact ⟨id, by simp, fun _ _ => id, by simp⟩
  | cons entry slots ih =>
    obtain ⟨slot, term⟩ := entry
    cases term with
    | var name =>
      obtain ⟨u, hu⟩ := hread slot
      have htextual := isTextual_of_slotTerm hu
      rw [bindSlots, hu, ok_bind]
      split
      · next hsame =>
        -- terms of texts are the same only if they are equal
        have hequal : (b.get? name).getD u = u := by
          cases hget : b.get? name with
          | none => rfl
          | some v =>
            rw [hget] at hsame
            exact (Term.same_iff_eq (hb name v hget) htextual).1 hsame
        obtain ⟨found, hfound, hbinds⟩ := ih (Binding.isTextual_bind hb htextual)
        exact ⟨found, hfound, fun b' hb' => (hbinds b' hb').cons_var hu hequal⟩
      · exact ⟨none, rfl, by simp⟩
    | _ =>
      obtain ⟨found, hfound, hbinds⟩ := ih hb
      refine ⟨found, hfound, fun b' hb' => ?_⟩
      have hbinds := hbinds b' hb'
      exact ⟨hbinds.nodup, by simpa using hbinds.has_iff, hbinds.kept, by simpa using hbinds.get?_eq⟩

theorem Pattern.mem_variableSlots : name ∈ p.variableSlots ↔ ∃ slot, (slot, .var name) ∈ p.slots := by
  simp only [variableSlots, List.mem_filterMap, Prod.exists]
  constructor
  · rintro ⟨slot, term, hmem, hname⟩
    cases term with
    | var other =>
      cases hname
      exact ⟨slot, hmem⟩
    | _ => cases hname
  · rintro ⟨slot, hmem⟩
    exact ⟨slot, .var name, hmem, rfl⟩

theorem slotTerm_of_mem_slots (h : tripleOf d = .ok t) {slot : Slot} (hmem : (slot, u) ∈ t.slots) :
    slotTerm d slot = .ok u := by
  obtain ⟨hsubject, hpredicate, hobject⟩ := slotTerms_of_tripleOf h
  simp only [Pattern.slots, List.mem_cons, List.not_mem_nil, or_false, Prod.mk.injEq] at hmem
  rcases hmem with ⟨rfl, rfl⟩ | ⟨rfl, rfl⟩ | ⟨rfl, rfl⟩
  · exact hsubject
  · exact hpredicate
  · exact hobject

theorem reads_of_document (p : Pattern) (hread : ∀ slot, ∃ u, slotTerm d slot = .ok u) : ∃ t found,
    tripleOf d = .ok t ∧ bindDocument p d [] = .ok found ∧ ∀ b ∈ found, b.Reads p t := by
  obtain ⟨subject, hsubject⟩ := hread .subject
  obtain ⟨predicate, hpredicate⟩ := hread .predicate
  obtain ⟨object, hobject⟩ := hread .object
  have htriple := tripleOf_of_slotTerms hsubject hpredicate hobject
  have hbound : ∃ found, bindDocument p d [] = .ok found ∧ ∀ b ∈ found, Binding.Binds d p.slots [] b :=
    bindSlots_binds hread (by simp [Binding.get?])
  obtain ⟨found, hfound, hbinds⟩ := hbound
  refine ⟨_, found, htriple, hfound, fun b hb => ?_⟩
  have hbinds := hbinds b hb
  refine ⟨hbinds.nodup List.nodup_nil, fun name => ?_, fun slot name u hvar hu => ?_⟩
  · rw [hbinds.has_iff, Pattern.mem_variableSlots]
    simp [Binding.has, Binding.get?]
  · exact hbinds.get?_eq slot name u hvar (slotTerm_of_mem_slots htriple hu)

/-- The loop of a step and a search over the same documents, all of which can be read. -/
theorem loop_reads {r : Reader} {step : Candidates} {ids : List DocId} (hp : step.pattern = some p)
    (hread : ∀ id ∈ ids, ∃ d, r.read id = .ok d ∧ ∀ slot, ∃ u, slotTerm d slot = .ok u) :
    (step.loop r [] (loops r []) ids).fault = none ∧ (findInPage r p ids).fault = none ∧
      List.Forall₂ (Binding.Reads · p) (step.loop r [] (loops r []) ids).answers (findInPage r p ids).triples := by
  -- loop and search come past a document alike: both leave it, or each has one more
  induction ids with
  | nil => exact ⟨rfl, rfl, .nil⟩
  | cons id ids ih =>
    obtain ⟨⟨d, hd, hslots⟩, hread⟩ := List.forall_mem_cons.1 hread
    obtain ⟨hloop, hfind, hreads⟩ := ih hread
    obtain ⟨t, found, htriple, hfound, hb⟩ := reads_of_document p hslots
    have hextend : step.extend r id [] = .ok found := by
      rw [Candidates.extend, hd, ok_bind, Candidates.requirePattern, hp]
      exact hfound
    have hmatching : matchingTriple r p id = .ok (found.map fun _ => t) := by
      rw [matchingTriple_of_read hd, hfound, htriple]
      cases found <;> rfl
    rw [Candidates.loop, Course.each, ← Candidates.loop, Candidates.meets, hextend, findInPage, hmatching,
      Course.andThen_assoc]
    cases found with
    | none =>
      rw [Course.andThen_eq rfl]
      dsimp only
      rw [Course.nothing_andThen]
      exact ⟨hloop, hfind, hreads⟩
    | some b =>
      have hanswer : loops r [] b = Course.answer b := rfl
      dsimp only
      rw [hanswer, Course.andThen_eq rfl, Course.andThen_eq rfl]
      exact ⟨hloop, hfind, .cons (hb b rfl) hreads⟩

end Reads

/-! ## Visits of a search -/

/-- The documents of a page that a search visits, up to the first that it fails on. -/
def visitsOfPage (r : Reader) (p : Pattern) : List DocId → List DocId
  | [] => []
  | id :: ids =>
    id :: match matchingTriple r p id with
      | .error _ => []
      | .ok _ => visitsOfPage r p ids

/-- The documents that a search visits page after page, given fuel. -/
def visitsOfPages (r : Reader) (p : Pattern) (f : Filter) (size : PageSize) : Nat → Option DocId → List DocId
  | 0, _ => []
  | fuel + 1, mark =>
    match searchPage r f size mark with
    | .error _ => []
    | .ok (ids, next) =>
      visitsOfPage r p ids ++
        match (findInPage r p ids).fault, next with
        | none, some mark => visitsOfPages r p f size fuel (some mark)
        | _, _ => []

section Visits

variable {r : Reader} {ix : Index} {f : Filter} {p : Pattern} {size : PageSize} {selected : IdSet} {rows : Int}

theorem visitsOfPage_eq {ids : List DocId} (h : ∀ id ∈ ids, ComesPast r p id) : visitsOfPage r p ids = ids := by
  induction ids with
  | nil => rfl
  | cons id ids ih =>
    obtain ⟨⟨found, hfound⟩, hids⟩ := List.forall_mem_cons.1 h
    rw [visitsOfPage, hfound, ih hids]

/-- With fuel for all pages a search that fails on no document visits everything after the mark. -/
theorem visitsOfPages_eq (heval : ix.evaluate f none = .ok selected) (hcount : size.count = .ok rows)
    (htext : ∀ q ∈ selected, ∃ name, q = .text name) {fuel : Nat} {mark : Option DocId}
    (hmark : ∀ id ∈ mark, id ∈ selected.toList) (hfuel : selected.size - Reader.passed selected mark < fuel)
    (hpast : ∀ id ∈ selected.toList.drop (Reader.passed selected mark), ComesPast (.opened ix) p id) :
    visitsOfPages (.opened ix) p f size fuel mark = selected.toList.drop (Reader.passed selected mark) := by
  -- as with the triples, what is left after the mark falls with every page
  induction fuel generalizing mark with
  | zero => exact absurd hfuel (Nat.not_lt_zero _)
  | succ fuel ih =>
    obtain ⟨page, later, hsearch, hpage, hlater⟩ := exists_searchPage heval hcount htext hmark
    rw [← hpage, List.forall_mem_append] at hpast
    obtain ⟨hhere, hrest⟩ := hpast
    rw [visitsOfPages, hsearch, ← hpage]
    dsimp only
    rw [visitsOfPage_eq hhere, fault_findInPage.2 hhere]
    cases later with
    | none => rfl
    | some last =>
      obtain ⟨hlast, hless⟩ := hlater last rfl
      exact congrArg (page ++ ·) (ih hlast (by omega) hrest)

end Visits

/-! ## Plans of one pattern -/

section Plans

variable {registry : Registry} {ix : Index} {p : Pattern} {graph : Term} {f : Filter} {selected : IdSet}

theorem Term.isWritable_of_slotClauses {field : String} {t : Term} (h : slotClauses field t = .ok f) :
    t.isWritable = true := by
  unfold slotClauses at h
  split at h
  · rfl
  · obtain ⟨form, hform, -⟩ := map_eq_ok.1 h
    exact isWritable_of_form hform

theorem Term.isWritable_of_objectClauses {t : Term} (h : objectClauses registry t = .ok f) : t.isWritable = true := by
  unfold objectClauses at h
  split at h
  · obtain ⟨clause, hclause, -⟩ := bind_eq_ok.1 h
    exact isWritable_of_literalClause hclause
  · exact isWritable_of_slotClauses h

theorem Pattern.isWritable_of_compile (h : compile registry p (some graph) = .ok f) : p.isWritable = true := by
  obtain ⟨subject, predicate, object, context, hsubject, hpredicate, hobject, -, -⟩ :=
    patternClauses_eq_ok (Index.patternClauses_of_compile h)
  rw [isWritable, Term.isWritable_of_slotClauses hsubject, Term.isWritable_of_slotClauses hpredicate,
    Term.isWritable_of_objectClauses hobject]
  rfl

theorem exists_graphName_of_compile (h : compile registry p (some graph) = .ok f) :
    ∃ text, graphName graph = .ok text := by
  obtain ⟨_, _, _, context, -, -, -, hcontext, -⟩ := patternClauses_eq_ok (Index.patternClauses_of_compile h)
  exact ⟨context, by rw [graphName, hcontext]⟩

/-- The only step of the plan of a pattern. -/
def stepOf (p : Pattern) (f : Filter) (selected : IdSet) : Candidates := ⟨some p, .int 0, selected, some f, none⟩

theorem make_single {ρ : Type} (hcompile : compile registry p (some graph) = .ok f)
    (heval : ix.evaluate f none = .ok selected) (workers : JsonValue) (name : ρ) : ∃ text,
      Plan.make workers registry (.opened ix) name [p] graph = .ok (if selected.size = 0 then .nothing
        else .joined [stepOf p f selected] (some text) (some name)) := by
  obtain ⟨text, htext⟩ := exists_graphName_of_compile hcompile
  have hresult : Candidates.evaluate registry (.opened ix) (some graph) p 0 = stepOf p f selected := by
    have heval : (Reader.opened ix).evaluate f none = .ok selected := heval
    rw [Candidates.evaluate, hcompile]
    dsimp only
    rw [heval]
    rfl
  have hresults : Candidates.evaluateFrom registry (.opened ix) (some graph) 0 [p] = [stepOf p f selected] :=
    congrArg (fun c => [c]) hresult
  have hwritable : [p].all Pattern.isWritable = true := by
    rw [List.all_cons, Pattern.isWritable_of_compile hcompile]
    rfl
  have hempty : (Plan.joined [stepOf p f selected] (some text) (some name)).isEmpty = decide (selected.size = 0) := rfl
  refine ⟨text, ?_⟩
  rw [Plan.make_eq _ _ _ _ (List.cons_ne_nil _ _), if_pos hwritable, htext, hresults]
  simp only [Except.map, Plan.order, Plan.sorted, List.mergeSort_singleton, hempty, decide_eq_true_eq]

end Plans

/-! ## Searches and queries -/

namespace Store

variable {registry : Registry} {s : Store} {p : Pattern} {g : Option Term} {f : Filter} {selected : IdSet}

/-- Every text in a slot of a document can be read as a term. -/
def Parses (s : Store) : Prop :=
  ∀ q d, s.index.at? q = some d → ∀ (slot : Slot) text, d.lookup slot.field = some (.text text) →
    ∃ t, Term.ofForm text = .ok t

def findVisits (s : Store) (p : Pattern) (g : Option Term) : List DocId :=
  match compile s.registry p (some (s.graph g)) with
  | .error _ => []
  | .ok f => visitsOfPages (.opened s.index) p f s.pageSize (s.index.size + 1) none

def queryVisits (s : Store) (ps : List Pattern) (g : Option Term) : Except Fault (List DocId) := do
  let plan ← Plan.make s.settings.workers s.registry (.opened s.index) () ps (s.graph g)
  let c ← Cursor.make plan true s.settings.fetchSize true
  return c.drainVisits c.pullsLeft none ⟨c.readerAtStart (.opened s.index), s.defaultContext, false⟩

theorem Reachable.ofValue_fetchSize (hs : s.Reachable registry) :
    PageSize.ofValue s.settings.fetchSize = .ok s.pageSize := by
  have hremove : ∀ (s : Store) text, (s.removeText text).1.settings = s.settings ∧
      (s.removeText text).1.pageSize = s.pageSize := by
    intro s text
    rcases s.removeText_cases text with heq | ⟨f, heq⟩
    · rw [heq]
      exact ⟨rfl, rfl⟩
    · rw [heq]
      exact ⟨rfl, rfl⟩
  induction hs with
  | make h =>
    obtain ⟨checked, -, h⟩ := bind_eq_ok.1 h
    obtain ⟨_, -, h⟩ := bind_eq_ok.1 h
    obtain ⟨pageSize, hsize, h⟩ := bind_eq_ok.1 h
    cases h
    exact hsize
  | insert h hinsert ih =>
    obtain ⟨d, ix, -, -, rfl⟩ := insert_eq_ok hinsert
    exact ih
  | @delete s h p g ih =>
    obtain ⟨hsettings, hsize⟩ := hremove s (deleteText s.registry p (some (s.graph g)))
    exact hsettings ▸ hsize ▸ ih
  | @clear s h g ih =>
    obtain ⟨hsettings, hsize⟩ := hremove s (graphText (s.graph g))
    exact hsettings ▸ hsize ▸ ih

theorem Reachable.exists_evaluate (hs : s.Reachable registry)
    (hcompile : compile s.registry p (some (s.graph g)) = .ok f) : ∃ selected, s.index.evaluate f none = .ok selected :=
  hs.maintained.index.exists_evaluate
    (fun c hc => (isAsked_patternClauses (Index.patternClauses_of_compile hcompile) c hc).suits) none

theorem Reachable.slotTerm_eq_ok (hs : s.Reachable registry) (hparses : s.Parses) {q : Place} {d : Document}
    (hd : s.index.at? q = some d) (slot : Slot) : ∃ t, slotTerm d slot = .ok t := by
  have hlookup : ∃ text, d.lookup slot.field = some (.text text) := by
    obtain ⟨filed, hfiled, rfl⟩ := Option.map_eq_some_iff.1 hd
    obtain ⟨context, subject, predicate, object, hdescribes, -, -⟩ := hs.describes _ (Table.mem_of_lookup hfiled)
    obtain ⟨-, hsubject, hpredicate, hobject⟩ := hdescribes.texts
    cases slot with
    | subject => exact ⟨subject, hsubject⟩
    | predicate => exact ⟨predicate, hpredicate⟩
    | object => exact ⟨object, hobject⟩
  obtain ⟨text, htext⟩ := hlookup
  obtain ⟨t, ht⟩ := hparses q d hd slot text htext
  exact ⟨t, (TripleIndex.slotTerm_eq htext).trans ht⟩

theorem Reachable.read_of_goesThrough (hs : s.Reachable registry) (hparses : s.Parses)
    (h : s.GoesThrough p g selected) : ∀ id ∈ selected.toList, ∃ d, (Reader.opened s.index).read id = .ok d ∧
      ∀ slot, ∃ t, slotTerm d slot = .ok t := by
  intro id hid
  obtain ⟨d, hd⟩ := hs.stored_of_goesThrough h (show id.place ∈ selected from List.mem_map_of_mem hid)
  exact ⟨d, read_eq_ok hd, hs.slotTerm_eq_ok hparses hd⟩

theorem Reachable.findVisits_eq (hs : s.Reachable registry) (h : s.GoesThrough p g selected)
    (hpast : ∀ id ∈ selected.toList, ComesPast (.opened s.index) p id) : s.findVisits p g = selected.toList := by
  have hsize : selected.size ≤ s.index.size := size_le_of_stored fun q hq => hs.stored_of_goesThrough h hq
  have htext := fun q hq => hs.text_of_goesThrough h (q := q) hq
  obtain ⟨⟨f, hcompile, heval⟩, rows, hcount⟩ := h
  rw [findVisits, hcompile]
  exact visitsOfPages_eq heval hcount htext (by simp) (by omega) hpast

/-- A cursor over the plan of one pattern that selects something gives the answers of a loop over what it selects,
and visits it. -/
theorem Reachable.drain_stepOf (hs : s.Reachable registry) {n : Int} (hn : 1 ≤ n) (text : String)
    (hfull : selected.size ≠ 0) (horder : Reader.checkOrder selected = .ok ())
    (hloop : ((stepOf p f selected).loop (.opened s.index) [] (loops (.opened s.index) []) selected.toList).fault =
      none) :
    let plan : Plan Unit := .joined [stepOf p f selected] (some text) (some ())
    let c := cursorOf plan (.rows n hn)
    (c.drain none (s.around plan (.rows n hn))).stop = .exhausted ∧
      (c.drain none (s.around plan (.rows n hn))).answers =
        ((stepOf p f selected).loop (.opened s.index) [] (loops (.opened s.index) []) selected.toList).answers ∧
      Cursor.drainVisits c.pullsLeft none c (s.around plan (.rows n hn)) = selected.toList := by
  intro plan c
  have hempty : plan.isEmpty = false := decide_eq_false hfull
  have hcursor : c = ⟨[stepOf p f selected], .rows n hn, true, [], none, none, false, false⟩ := by
    show cursorOf plan (.rows n hn) = _
    rw [cursorOf, hempty]
    rfl
  have hreader : (s.around plan (.rows n hn)).reader = .opened s.index := by
    have hcursor : cursorOf plan (.rows n hn) = _ := hcursor
    rw [around, Cursor.readerAtStart, hcursor]
    rfl
  have hloops : planLoops (.opened s.index) [stepOf p f selected] = (stepOf p f selected).loop (.opened s.index) []
      (loops (.opened s.index) []) selected.toList := by
    have horder : Reader.checkOrder (stepOf p f selected).ids = .ok () := horder
    rw [planLoops, horder]
    rfl
  rw [← hloops] at hloop ⊢
  obtain ⟨hanswers, hstop⟩ := Cursor.drain_steps hn true hreader rfl hs.hasTime hloop
  rw [hcursor]
  exact ⟨hstop, hanswers, Cursor.drainVisits_step hn true hreader rfl hs.hasTime hloop⟩

/-- A query of a pattern that compiles gives the answers of a loop over what the pattern selects, and visits it. -/
theorem Reachable.answers_single (hs : s.Reachable registry)
    (hcompile : compile s.registry p (some (s.graph g)) = .ok f) (heval : s.index.evaluate f none = .ok selected)
    (hpages : ∃ rows, s.pageSize.count = .ok rows) (horder : Reader.checkOrder selected = .ok ())
    (hloop : ((stepOf p f selected).loop (.opened s.index) [] (loops (.opened s.index) []) selected.toList).fault =
      none) : ∃ context,
      s.answers [p] g = .ok (((stepOf p f selected).loop (.opened s.index) [] (loops (.opened s.index) [])
        selected.toList).answers, context) ∧
      context.scanned = selected.size ∧ s.queryVisits [p] g = .ok selected.toList := by
  obtain ⟨text, hmake⟩ := make_single hcompile heval s.settings.workers ()
  obtain ⟨n, hn, hrows⟩ : ∃ n, ∃ hn : 1 ≤ n, s.pageSize = .rows n hn := by
    cases hsize : s.pageSize with
    | rows n hn => exact ⟨n, hn, rfl⟩
    | fraction =>
      rw [hsize] at hpages
      obtain ⟨rows, hrows⟩ := hpages
      cases hrows
  have hsize : PageSize.ofValue s.settings.fetchSize = .ok (.rows n hn) := hrows ▸ hs.ofValue_fetchSize
  generalize hplan : (if selected.size = 0 then .nothing
    else .joined [stepOf p f selected] (some text) (some ()) : Plan Unit) = plan at hmake
  have hdrained : ((cursorOf plan (.rows n hn)).drain none (s.around plan (.rows n hn))).stop = .exhausted ∧
      ((cursorOf plan (.rows n hn)).drain none (s.around plan (.rows n hn))).answers =
        ((stepOf p f selected).loop (.opened s.index) [] (loops (.opened s.index) []) selected.toList).answers ∧
      Cursor.drainVisits (cursorOf plan (.rows n hn)).pullsLeft none (cursorOf plan (.rows n hn))
        (s.around plan (.rows n hn)) = selected.toList := by
    by_cases hempty : selected.size = 0
    · -- a plan that selects nothing has no steps, and its cursor is done from the start
      rw [if_pos hempty] at hplan
      have hdone : (cursorOf plan (.rows n hn)).done = true := by rw [← hplan]; rfl
      obtain ⟨hanswers, hstop⟩ := Cursor.drain_done (s := s.around plan (.rows n hn)) rfl rfl hdone
      rw [List.eq_nil_of_length_eq_zero hempty]
      exact ⟨hstop, hanswers, Cursor.drainVisits_done rfl rfl hdone _ _⟩
    · rw [if_neg hempty] at hplan
      rw [← hplan]
      exact hs.drain_stepOf hn text hempty horder hloop
  obtain ⟨hstop, hanswers, hvisits⟩ := hdrained
  refine ⟨((cursorOf plan (.rows n hn)).drain none (s.around plan (.rows n hn))).surroundings.context, ?_, ?_, ?_⟩
  · rw [answers_of_plan hmake hsize, hstop, ← hanswers]
  · rw [Cursor.drain, Cursor.scanned_drainFrom, hvisits]
    exact Nat.zero_add _
  · rw [queryVisits, hmake, ok_bind, Cursor.make_of_size plan hsize, ok_bind]
    exact congrArg Except.ok hvisits

end Store

/-- A query of one pattern gives one binding for each triple that a search for the pattern finds, in the same
order, and the binding reads its variables off the triple. Both visit each selected document once, in ascending
order. -/
theorem query_reads_find {registry : Registry} {session : Session} (hs : session.store.Reachable registry)
    (hpages : ∃ rows, session.store.pageSize.count = .ok rows) (hparses : session.store.Parses) {p : Pattern}
    {g : Option Term} {f : Filter} (hcompile : compile session.store.registry p (some (session.store.graph g)) = .ok f) :
    ∃ selected answers context, session.store.index.evaluate f none = .ok selected ∧ Ascending selected.toList ∧
      (session.store.find p g).fault = none ∧ session.store.findVisits p g = selected.toList ∧
      (Session.perform (Session.query [p] g) session).1 = .ok (answers, context) ∧
      session.store.queryVisits [p] g = .ok selected.toList ∧ context.scanned = selected.size ∧
      List.Forall₂ (Binding.Reads · p) answers (session.store.find p g).triples := by
  obtain ⟨selected, heval⟩ := hs.exists_evaluate hcompile
  have hthrough : session.store.GoesThrough p g selected := ⟨⟨f, hcompile, heval⟩, hpages⟩
  have hpattern : (stepOf p f selected).pattern = some p := rfl
  obtain ⟨hloop, hfind, hreads⟩ := loop_reads hpattern (hs.read_of_goesThrough hparses hthrough)
  have horder := hs.index.checkOrder fun q hq => hs.stored_of_goesThrough hthrough hq
  obtain ⟨context, hanswers, hscanned, hvisits⟩ := hs.answers_single hcompile heval hpages horder hloop
  rw [perform_query, hs.find_eq hthrough]
  exact ⟨selected, _, context, heval, selected.ascending, hfind,
    hs.findVisits_eq hthrough (fault_findInPage.1 hfind), hanswers, hvisits, hscanned, hreads⟩

/-- Three who know somebody, two of them themselves, in a store whose pages have one row. -/
def knowing : Except Fault Store := do
  [⟨.iri "urn:a", .iri "urn:knows", .iri "urn:b"⟩, ⟨.iri "urn:b", .iri "urn:knows", .iri "urn:b"⟩,
    ⟨.iri "urn:c", .iri "urn:knows", .iri "urn:c"⟩].foldlM (fun (s : Store) triple => s.insert triple none)
    (← Store.make { Settings.default with fetchSize := .ofInt 1 } .default)

/-- Who knows themselves. -/
def themselves : Pattern := Cursor.knows "x" "x"

theorem query_reads_find_themselves : ∃ s f, knowing = .ok s ∧ s.Reachable .default ∧
    (∃ rows, s.pageSize.count = .ok rows) ∧ s.Parses ∧
    compile s.registry themselves (some (s.graph none)) = .ok f ∧ (s.find themselves none).triples.length = 2 ∧
    ∃ selected answers context, s.index.evaluate f none = .ok selected ∧ Ascending selected.toList ∧
      (s.find themselves none).fault = none ∧ s.findVisits themselves none = selected.toList ∧
      (Session.perform (Session.query [themselves] none) (.ofStore s)).1 = .ok (answers, context) ∧
      s.queryVisits [themselves] none = .ok selected.toList ∧ context.scanned = selected.size ∧
      List.Forall₂ (Binding.Reads · themselves) answers (s.find themselves none).triples := by
  -- What the theorem asks of the store is decided on its two documents by the kernel.
  have hrun : (do
      let s ← knowing
      let f ← compile s.registry themselves (some (s.graph none))
      let rows ← s.pageSize.count
      return decide ((∀ e ∈ s.index.documents, ∀ slot ∈ [Slot.subject, .predicate, .object],
          (slotTerm e.2.fields slot).isOk = true) ∧ (s.find themselves none).triples.length = 2)).toOption =
      some true := by decide +kernel
  obtain ⟨s, hs, hrun⟩ := bind_eq_ok.1 (toOption_eq_some.1 hrun)
  obtain ⟨f, hf, hrun⟩ := bind_eq_ok.1 hrun
  obtain ⟨rows, hrows, hrun⟩ := bind_eq_ok.1 hrun
  obtain ⟨hslots, hlength⟩ := of_decide_eq_true (Except.ok.inj hrun)
  obtain ⟨empty, hempty, hinserted⟩ := bind_eq_ok.1 hs
  have hreachable : s.Reachable .default := .foldlM_insert (.make hempty) hinserted
  have hparses : s.Parses := by
    intro q d hd slot text htext
    obtain ⟨e, he, -, rfl⟩ := hreachable.maintained.index.sound.at?_eq_some.1 hd
    have hok := hslots e he slot (by cases slot <;> simp)
    rw [slotTerm_eq htext] at hok
    cases ht : Term.ofForm text with
    | ok t => exact ⟨t, rfl⟩
    | error e =>
      rw [ht] at hok
      cases hok
  exact ⟨s, f, hs, hreachable, ⟨rows, hrows⟩, hparses, hf, hlength,
    @query_reads_find .default (.ofStore s) hreachable ⟨rows, hrows⟩ hparses themselves none f hf⟩

end TripleIndex
