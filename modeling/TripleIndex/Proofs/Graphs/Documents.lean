import TripleIndex.Proofs.Stores.Names

/-!
Graphs and the documents in them. A graph is known by the form of its name, which every document has in its
context field, and the form is read back as the IRI or the blank node that names the graph. As long as the
names of the graphs have no tab and the identifiers of the quadruples are distinct, a document stands where
only a document of the same quadruple can stand.
-/

namespace TripleIndex

/-! ## Names of graphs -/

namespace Term

/-- The names that graphs are listed by. -/
def isName : Term → Bool
  | iri _ | blank _ => true
  | _ => false

/-- There is no tab in the name of the graph. What names no graph has none either. -/
def isUntabbed (g : Term) : Bool := (graphForm (some g)).toOption.all fun form => !form.toList.contains '\t'

def SameGraph (g g' : Term) : Prop := ∃ form, graphForm (some g) = .ok form ∧ graphForm (some g') = .ok form

variable {g : Term} {form : String}

theorem isUntabbed_iff (h : graphForm (some g) = .ok form) : g.isUntabbed = true ↔ '\t' ∉ form.toList := by
  simp [isUntabbed, h, Except.toOption]

theorem graphForm_of_isName (hg : g.isName = true) : graphForm (some g) = g.form := by
  cases g with
  | iri value => rfl
  | blank label => rfl
  | _ => cases hg

/-- The form of the name of a graph is read back as the IRI or the blank node that it is the form of. -/
theorem ofForm_graphForm (h : graphForm (some g) = .ok form) :
    ∃ name : Term, name.isName = true ∧ name.form = .ok form ∧ ofForm form = .ok name := by
  have hiri : ∀ {value : String}, (iri value).form = .ok form →
      ∃ name : Term, name.isName = true ∧ name.form = .ok form ∧ ofForm form = .ok name :=
    fun h => ⟨_, rfl, h, ofForm_form_iri h⟩
  cases g with
  | bare s => exact hiri h
  | iri value => exact hiri h
  | blank label =>
    have h : (blank label).form = .ok form := h
    exact ⟨_, rfl, h, ofForm_form_blank h⟩
  | iriOfValue v =>
    cases v with
    | codePoints ns =>
      refine hiri (show (iri (String.ofList (ns.map standIn))).form = .ok form from ?_)
      rw [graphForm, Term.form, formOfIri] at h
      split at h
      · next hlegal =>
        have hform := (encodable_eq_ok.1 h).2
        rw [Term.form, String.toList_ofList, if_pos hlegal, Except.ok.injEq, ← String.toList_inj, hform]
        simp [String.toList_append]
      · cases h
    | _ => cases h
  | literal l => cases h
  | var name => cases h

end Term

/-! ## Documents -/

namespace Document

def IsIn (d : Document) (g : Term) : Prop :=
  ∃ form, graphForm (some g) = .ok form ∧ d.lookup Field.context = some (.text form)

end Document

section Documents

variable {registry : Registry} {triple : Pattern} {g : Term} {d : Document}

theorem Clause.IsCompiled.exists_text {name : String} {v : Scalar} (h : (Clause.term name v).IsCompiled)
    (htype : Schema.triples.type? name = some .text) : ∃ s, v = .text s := by
  cases h with
  | text s => exact ⟨s, rfl⟩
  | _ => cases htype

theorem lookup_context_document (h : document registry triple (some g) = .ok d) :
    d.lookup Field.context = some (.text d.quadruple.context) := by
  obtain ⟨context, subject, predicate, object, hdescribes⟩ := describes_document h
  rw [hdescribes.quadruple_eq]
  exact hdescribes.texts.1

theorem isIn_document (h : document registry triple (some g) = .ok d) : d.IsIn g :=
  ⟨_, (forms_of_document h).1, lookup_context_document h⟩

end Documents

/-! ## Calls -/

namespace Store

/-- The graph that a call names, unless it is the default one. -/
def Call.graph : Call → Option Term
  | .insert _ g | .insertMany _ g | .delete _ g | .clear g => g

def Call.triples : Call → List Pattern
  | .insert triple _ => [triple]
  | .insertMany triples _ => triples
  | .delete _ _ | .clear _ => []

def quadruples (s : Store) (c : Call) : List Quadruple :=
  c.triples.filterMap fun triple =>
    (document s.registry triple (some (s.graph c.graph))).toOption.map Document.quadruple

/-- Different quadruples of a list have different identifiers. -/
def DistinctIds (quadruples : List Quadruple) : Prop :=
  ∀ q ∈ quadruples, ∀ q' ∈ quadruples, q.id = q'.id → q = q'

instance (quadruples : List Quadruple) : Decidable (DistinctIds quadruples) :=
  inferInstanceAs (Decidable (∀ _ ∈ _, _))

/-- Calls on graphs without tabs in their names, all quadruples of which have identifiers of their own. -/
structure Admits (s : Store) (calls : List Call) : Prop where
  untabbed : ∀ c ∈ calls, (s.graph c.graph).isUntabbed = true
  distinct : DistinctIds (calls.flatMap s.quadruples)

instance (s : Store) (calls : List Call) : Decidable (s.Admits calls) :=
  decidable_of_iff (_ ∧ _) ⟨fun h => ⟨h.1, h.2⟩, fun h => ⟨h.1, h.2⟩⟩

/-- A store every document of which is that of one of some quadruples, in a graph without a tab in its name, and
stands under its own identifier. -/
structure Within (quadruples : List Quadruple) (s : Store) : Prop where
  reachable : Reachable .default s
  place : ∀ q d, s.index.at? q = some d → q = d.quadruple.id.place
  mem : ∀ q d, s.index.at? q = some d → d.quadruple ∈ quadruples
  made : ∀ q d, s.index.at? q = some d →
    ∃ triple g, g.isUntabbed = true ∧ document s.registry triple (some g) = .ok d

variable {quadruples : List Quadruple} {s : Store} {q : Place} {d : Document}

theorem Within.lookup_context (h : s.Within quadruples) (hd : s.index.at? q = some d) :
    d.lookup Field.context = some (.text d.quadruple.context) := by
  obtain ⟨triple, g, -, hdocument⟩ := h.made q d hd
  exact lookup_context_document hdocument

/-- Where identifiers are distinct, documents at one place are of one quadruple. -/
theorem Within.quadruple_eq (h : s.Within quadruples) (hd : s.index.at? q = some d)
    (hdistinct : DistinctIds quadruples) {other : Quadruple} (hother : other ∈ quadruples)
    (hq : q = other.id.place) : d.quadruple = other := by
  refine hdistinct _ (h.mem q d hd) _ hother ?_
  have hplace : d.quadruple.id.place = other.id.place := (h.place q d hd).symm.trans hq
  exact congrArg Scalar.text (Scalar.place_text_inj.1 hplace)

/-! ## Values of text fields -/

theorem Within.exists_text (h : s.Within quadruples) {field : String}
    (htype : Schema.triples.type? field = some .text) {q : Place} {d : Document} (hd : s.index.at? q = some d)
    {w : Scalar} (hw : d.lookup field = some w) : ∃ text, w = .text text := by
  obtain ⟨triple, g, -, hdocument⟩ := h.made q d hd
  exact ((isCompiled_document hdocument).values _ (Table.mem_of_lookup hw)).exists_text htype

theorem eq_text_of_same {v : Scalar} {text : String} (h : v.same (.text text) = true) : v = .text text := by
  cases v with
  | text t => exact congrArg Scalar.text (beq_iff_eq.1 h)
  | _ => cases h

theorem Within.distinctValues (h : s.Within quadruples) (field : String)
    (htype : Schema.triples.type? field = some .text) : ∃ vs, s.index.distinctValues field = .ok vs ∧ vs.Nodup ∧
      (∀ v ∈ vs, ∃ text, v = .text text) ∧
      ∀ v, v ∈ vs ↔ ∃ q d, s.index.at? q = some d ∧ d.lookup field = some v := by
  have hmaintained := h.reachable.maintained.index
  obtain ⟨vs, hvs, hascending, hstored, hlisted⟩ := hmaintained.agrees_distinct htype
  have hfound : ∀ v ∈ vs, ∃ q d text, s.index.at? q = some d ∧ d.lookup field = some (.text text) ∧
      v = .text text := by
    intro v hv
    obtain ⟨⟨q, d⟩, he, w, hw, hsame⟩ := hstored v hv
    have hd := hmaintained.sound.mem_contents.1 he
    obtain ⟨text, rfl⟩ := h.exists_text htype hd hw
    exact ⟨q, d, text, hd, hw, eq_text_of_same hsame⟩
  refine ⟨vs, hvs, ?_, fun v hv => ?_, fun v => ⟨fun hv => ?_, ?_⟩⟩
  · refine hascending.imp_of_mem fun {a b} ha _ hlt => ?_
    rintro rfl
    obtain ⟨-, -, text, -, -, rfl⟩ := hfound a ha
    exact absurd (decide_eq_true_iff.1 hlt) (String.lt_irrefl text)
  · obtain ⟨-, -, text, -, -, rfl⟩ := hfound v hv
    exact ⟨text, rfl⟩
  · obtain ⟨q, d, text, hd, hw, rfl⟩ := hfound v hv
    exact ⟨q, d, hd, hw⟩
  · rintro ⟨q, d, hd, hw⟩
    obtain ⟨text, rfl⟩ := h.exists_text htype hd hw
    obtain ⟨v, hv, hsame⟩ := hlisted (q, d) (hmaintained.sound.mem_contents.2 hd) _ hw
    rwa [eq_text_of_same hsame] at hv

end Store

end TripleIndex
