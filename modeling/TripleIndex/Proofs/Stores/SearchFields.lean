import TripleIndex.Proofs.Stores.Matches
import TripleIndex.Proofs.Terms.Kept

/-!
The fields in which a triple is searched. If no term of it has lost anything, the triple that is read from a document
asks in each of them for what the document has there. A pattern that selects the document asks in no others, so what
the triple selects the pattern has selected.
-/

namespace TripleIndex

/-! ## Equal values -/

theorem Double.same_trans {x y z : Double} (hxy : x.same y = true) (hyz : y.same z = true) : x.same z = true := by
  cases x <;> cases y <;> cases z <;> simp_all [same]

theorem Double.same_of_sameInt {x y : Double} {n : Int} (hx : x.sameInt n = true) (hy : y.sameInt n = true) :
    x.same y = true := by
  cases x with
  | finite negative units =>
    cases y with
    | finite m k => exact same_finite.2 ((sameInt_finite.1 hx).trans (sameInt_finite.1 hy).symm)
    | _ => cases hy
  | _ => cases hx

theorem Ordered.same_trans {a b c : Ordered} (hab : a.same b = true) (hbc : b.same c = true) :
    a.same c = true := by
  cases b with
  | text s => cases a <;> cases c <;> simp_all [same]
  | codePoints s => cases a <;> cases c <;> simp_all [same]
  | int n =>
    cases a <;> cases c <;> try simp_all [same]
    exact Double.same_of_sameInt hab hbc
  | float y =>
    cases a with
    | int m =>
      cases c with
      | int n => exact beq_iff_eq.2 (Double.eq_of_sameInt hab hbc)
      | float z => exact Double.sameInt_of_same hbc hab
      | _ => cases hbc
    | float x =>
      cases c with
      | int n => exact Double.sameInt_of_same (y.same_comm x ▸ hab) hbc
      | float z => exact Double.same_trans hab hbc
      | _ => cases hbc
    | _ => cases hab

theorem Scalar.same_trans {a b c : Scalar} (hab : a.same b = true) (hbc : b.same c = true) : a.same c = true := by
  unfold same at *
  split at hab
  · next x y hx hy =>
    rw [hy] at hbc
    split at hbc
    · next hy' hz =>
      cases hy'
      rw [hx, hz]
      exact Ordered.same_trans hab hbc
    · next h _ => cases h
    · cases hbc
  · next hx hy => rwa [hx, ← hy]
  · cases hab

theorem Clause.IsCompiled.same_self {name : String} {v : Scalar} (h : (Clause.term name v).IsCompiled) :
    v.same v = true := by
  cases h with
  | text text => exact beq_self_eq_true text
  | number hx hnan => exact Double.same_self hnan
  | instant hn => exact beq_self_eq_true _
  | truth b => exact beq_self_eq_true _

/-! ## The query of a triple -/

section Queries

variable {triple p : Pattern} {graph : Term} {g : Option Term} {t : Term} {l : Literal} {d e : Document} {f : Filter}
  {c : Clause}

def Literal.searchField (l : Literal) : String :=
  let family := Registry.default.forLiteral l
  if family.isIndexable l.lexical then family.field else Field.object

def Term.searchFields : Term → List String
  | literal l => [Field.lang, l.searchField]
  | _ => [Field.object]

/-- The fields in which a triple is searched. -/
def Pattern.searchFields (p : Pattern) : List String :=
  [Field.subject, Field.predicate] ++ p.object.searchFields ++ [Field.context]

theorem lookup_of_document (h : document .default triple (some graph) = .ok d) :
    d.lookup Field.context = some (.text d.quadruple.context) ∧
      d.lookup Field.subject = some (.text d.quadruple.subject) ∧
      d.lookup Field.predicate = some (.text d.quadruple.predicate) ∧
      d.lookup Field.object = some (.text d.quadruple.object) := by
  obtain ⟨context, subject, predicate, object, hdescribes⟩ := describes_document h
  rw [hdescribes.quadruple_eq]
  exact hdescribes.texts

theorem exists_graph_of_document {registry : Registry} {asked : Option Term}
    (h : document registry triple asked = .ok d) : ∃ graph, asked = some graph := by
  cases asked with
  | some graph => exact ⟨graph, rfl⟩
  | none =>
    unfold document at h
    split at h
    · cases h
    · cases h

theorem slotClauses_of_form {field form : String} (h : t.form = .ok form) :
    slotClauses field t = .ok [.term field (.text form)] := by
  unfold slotClauses
  split
  · cases h
  · rw [h]
    rfl

theorem isIndexable_of_fieldValue {family : CodecFamily} {lexical : String} {v : Scalar}
    (h : family.fieldValue lexical = .ok v) : family.isIndexable lexical = true := by
  cases family with
  | numeric =>
    obtain ⟨x, hx, -⟩ := map_eq_ok.1 h
    refine decide_eq_true fun hnan => ?_
    rw [CodecFamily.numericValue, hnan] at hx
    cases hx
  | _ => rfl

theorem literalClause_kept (hl : l.IsMade) (hd : d.Encodes .default l) : ∃ w,
    literalClause .default l.kept = .ok (.term l.searchField w) ∧ d.lookup l.searchField = some w := by
  obtain ⟨form, hform, hobject⟩ := hd.form
  have hwritable : l.kept.isWritable = true := Literal.isWritable_of_form (l.form_kept hl hform)
  unfold literalClause Literal.searchField
  rw [Literal.forLiteral_kept, Literal.lexical_kept, hwritable]
  dsimp only
  by_cases hindexable : (Registry.default.forLiteral l).isIndexable l.lexical = true
  · obtain ⟨value, hvalue, hlookup⟩ := hd.value hindexable
    rw [if_pos hindexable, if_pos hindexable, CodecFamily.valueClause, hvalue]
    exact ⟨value, rfl, hlookup⟩
  · rw [if_neg hindexable, if_neg hindexable, l.form_kept hl hform]
    exact ⟨_, rfl, hobject⟩

theorem exists_objectClauses_kept (hkept : triple.IsKept) (h : document .default triple (some graph) = .ok d) :
    ∃ f, objectClauses .default triple.object.kept = .ok f ∧
      ∀ c, c ∈ f ↔ ∃ name ∈ triple.object.searchFields, ∃ w, d.lookup name = some w ∧ c = .term name w := by
  obtain ⟨-, -, -, hobject⟩ := forms_of_document h
  obtain ⟨-, -, -, hlookup⟩ := lookup_of_document h
  have hform := (Term.ofForm_kept hkept.object hobject).2
  cases ht : triple.object with
  | literal l =>
    have hencodes := encodes_document ht h
    have hl : (Term.literal l).IsKept := ht ▸ hkept.object
    obtain ⟨w, hw, hvalue⟩ := literalClause_kept (Literal.IsKept.made hl) hencodes
    refine ⟨[.term Field.lang (languageField l.kept), .term l.searchField w], ?_, fun c => ?_⟩
    · show (literalClause .default l.kept >>= _) = _
      rw [hw]
      rfl
    · simp [Term.searchFields, hencodes.lang, hvalue]
  | var name =>
    rw [ht] at hobject
    cases hobject
  | bare s =>
    rw [ht] at hobject
    cases hobject
  | _ =>
    rw [ht] at hform
    refine ⟨_, slotClauses_of_form hform, fun c => ?_⟩
    simp [Term.searchFields, hlookup]

/-- A triple that has lost nothing asks for what its document has in the fields in which it is searched. -/
theorem exists_patternClauses_kept (hkept : triple.IsKept) (h : document .default triple (some graph) = .ok d)
    {asked : Term} (hasked : graphForm (some asked) = .ok d.quadruple.context) : ∃ f,
      patternClauses .default triple.kept (some asked) = .ok f ∧
        ∀ c, c ∈ f ↔ ∃ name ∈ triple.searchFields, ∃ w, d.lookup name = some w ∧ c = .term name w := by
  obtain ⟨-, hsubject, hpredicate, -⟩ := forms_of_document h
  obtain ⟨hcontext, hsubject', hpredicate', -⟩ := lookup_of_document h
  obtain ⟨object, hobject, hmem⟩ := exists_objectClauses_kept hkept h
  refine ⟨[.term Field.subject (.text d.quadruple.subject)] ++ [.term Field.predicate (.text d.quadruple.predicate)] ++
    object ++ [.term Field.context (.text d.quadruple.context)], ?_, fun c => ?_⟩
  · rw [patternClauses, Pattern.kept, slotClauses_of_form (Term.ofForm_kept hkept.subject hsubject).2,
      slotClauses_of_form (Term.ofForm_kept hkept.predicate hpredicate).2, hobject, hasked]
    rfl
  · simp only [List.mem_append, hmem, Pattern.searchFields]
    simp [hcontext, hsubject', hpredicate', or_assoc]

/-- The clause for a literal that a document holds is for the field in which the literal of the document is
searched. -/
theorem searchField_of_holds {a b : Literal} (ha : a.IsMade) (hb : b.IsMade) (hd : d.Encodes .default b)
    (hc : literalClause .default a = .ok c) (hholds : c.holds Schema.triples d = true) :
    ∃ v, c = .term b.searchField v := by
  have hcompiled := isCompiled_literalClause hc
  have hclause := literalClause_eq_ok hc
  unfold Literal.searchField
  split at hclause
  · obtain ⟨v, -, rfl⟩ := hclause
    obtain ⟨w, hw, -⟩ := hcompiled.holds_iff.1 hholds
    obtain ⟨hfamily, hvalue⟩ := hd.only _ _ hw
    rw [hfamily, if_pos (isIndexable_of_fieldValue hvalue)]
    exact ⟨v, rfl⟩
  · next hindexable =>
    obtain ⟨form, hform, rfl⟩ := hclause
    have hnan : a.IsNumericNan .default := by rwa [Literal.isIndexable_iff, not_not] at hindexable
    obtain ⟨hnan', -, -⟩ := hnan.of_holds ha hb hd hform hholds
    have hnone : ¬ (Registry.default.forLiteral b).isIndexable b.lexical = true := by
      rwa [Literal.isIndexable_iff, not_not]
    exact ⟨.text form, by rw [if_neg hnone]⟩

theorem exists_of_mem_slotClauses {field : String} (h : slotClauses field t = .ok f) (hc : c ∈ f) :
    ∃ form, t.form = .ok form ∧ c = .term field (.text form) := by
  unfold slotClauses at h
  split at h
  · cases h
    cases hc
  · obtain ⟨form, hform, rfl⟩ := map_eq_ok.1 h
    exact ⟨form, hform, List.mem_singleton.1 hc⟩

theorem exists_literal_of_holds (h : document .default triple (some graph) = .ok d) {v : Scalar}
    (hholds : (Clause.term Field.lang v).holds Schema.triples d = true) : ∃ l, triple.object = .literal l := by
  by_contra hliteral
  obtain ⟨-, -, -, hform⟩ := forms_of_document h
  obtain ⟨context, subject, predicate, object, hdescribes⟩ := describes_document h
  rw [hdescribes.quadruple_eq] at hform
  have hquote := Term.head?_form (fun l hl => hliteral ⟨l, hl⟩) hform
  rw [Clause.holds] at hholds
  cases hlang : d.lookup Field.lang with
  | none =>
    rw [hlang] at hholds
    cases hholds
  | some w => exact hquote (hdescribes.lang.1 (by rw [hlang]; rfl))

/-- A pattern whose object can be made, if it is a literal. -/
def Pattern.IsMade (p : Pattern) : Prop := ∀ l, p.object = .literal l → l.IsMade

theorem objectFields_of_holds (hp : p.IsMade) (htriple : triple.IsMade)
    (h : document .default triple (some graph) = .ok d) (hf : objectClauses .default p.object = .ok f)
    (hholds : ∀ c ∈ f, c.holds Schema.triples d = true) :
    ∀ c ∈ f, ∃ name ∈ triple.object.searchFields, ∃ v, c = .term name v := by
  obtain ⟨-, -, -, hform⟩ := forms_of_document h
  by_cases hliteral : ∃ a, p.object = .literal a
  · obtain ⟨a, ha⟩ := hliteral
    rw [ha] at hf
    obtain ⟨clause, hclause, hf⟩ := bind_eq_ok.1 (show literalClause .default a >>= _ = _ from hf)
    cases hf
    obtain ⟨hlang, hvalue⟩ := List.forall_mem_cons.1 hholds
    obtain ⟨b, hb⟩ := exists_literal_of_holds h hlang
    obtain ⟨v, rfl⟩ := searchField_of_holds (hp a ha) (htriple b hb) (encodes_document hb h) hclause
      (hvalue _ List.mem_cons_self)
    rw [hb]
    exact List.forall_mem_cons.2 ⟨⟨Field.lang, by simp [Term.searchFields], _, rfl⟩,
      List.forall_mem_singleton.2 ⟨b.searchField, by simp [Term.searchFields], _, rfl⟩⟩
  · have hplain : ∀ l, p.object ≠ .literal l := fun l hl => hliteral ⟨l, hl⟩
    have hslots : objectClauses .default p.object = slotClauses Field.object p.object := by
      unfold objectClauses
      split
      · next l hl => exact absurd hl (hplain l)
      · rfl
    rw [hslots] at hf
    intro c hc
    obtain ⟨form, hpform, rfl⟩ := exists_of_mem_slotClauses hf hc
    have hlookup := (Clause.holds_text_iff rfl).1 (hholds _ hc)
    rw [(lookup_of_document h).2.2.2] at hlookup
    cases hlookup
    refine ⟨Field.object, ?_, _, rfl⟩
    -- no literal has the form of another term
    have hquote := Term.head?_form hplain hpform
    unfold Term.searchFields
    split
    · next b hb =>
      rw [hb] at hform
      exact absurd (b.head?_form hform) hquote
    · exact List.mem_singleton_self _

/-- A pattern asks for nothing in other fields than those in which a triple is searched whose document it selects. -/
theorem searchFields_of_holds (hp : p.IsMade) (htriple : triple.IsMade)
    (h : document .default triple (some graph) = .ok d) {asked : Option Term}
    (hf : patternClauses .default p asked = .ok f) (hholds : ∀ c ∈ f, c.holds Schema.triples d = true) :
    ∀ c ∈ f, ∃ name ∈ triple.searchFields, ∃ v, c = .term name v := by
  obtain ⟨subject, predicate, object, context, hsubject, hpredicate, hobject, -, rfl⟩ := patternClauses_eq_ok hf
  simp only [List.forall_mem_append, List.forall_mem_singleton] at hholds ⊢
  have hslot : ∀ {field : String} {t : Term} {f : Filter}, field ∈ triple.searchFields →
      slotClauses field t = .ok f → ∀ c ∈ f, ∃ name ∈ triple.searchFields, ∃ v, c = .term name v := by
    intro field t f hfield hf c hc
    obtain ⟨form, -, rfl⟩ := exists_of_mem_slotClauses hf hc
    exact ⟨field, hfield, _, rfl⟩
  refine ⟨⟨⟨hslot (by simp [Pattern.searchFields]) hsubject, hslot (by simp [Pattern.searchFields]) hpredicate⟩,
    fun c hc => ?_⟩, Field.context, by simp [Pattern.searchFields], _, rfl⟩
  obtain ⟨name, hname, v, rfl⟩ := objectFields_of_holds hp htriple h hobject hholds.1.2 c hc
  exact ⟨name, by simp [Pattern.searchFields, hname], v, rfl⟩

theorem holds_of_lookup (hd : d.IsCompiled) {fields : List String}
    (hf : ∀ c, c ∈ f ↔ ∃ name ∈ fields, ∃ w, d.lookup name = some w ∧ c = .term name w) :
    ∀ c ∈ f, c.IsCompiled ∧ c.holds Schema.triples d = true := by
  intro c hc
  obtain ⟨name, -, w, hw, rfl⟩ := (hf c).1 hc
  have hcompiled := hd.values _ (Table.mem_of_lookup hw)
  exact ⟨hcompiled, hcompiled.holds_iff.2 ⟨w, hw, hcompiled.same_self⟩⟩

/-- A document that has what is asked for in some fields holds whatever else is asked for in them. -/
theorem holds_trans (hd : d.IsCompiled) {fields : List String}
    (hf : ∀ c, c ∈ f ↔ ∃ name ∈ fields, ∃ w, d.lookup name = some w ∧ c = .term name w)
    (he : ∀ c ∈ f, c.holds Schema.triples e = true) {name : String} (hname : name ∈ fields) {v : Scalar}
    (hholds : (Clause.term name v).holds Schema.triples d = true) :
    (Clause.term name v).holds Schema.triples e = true := by
  rw [Clause.holds] at hholds ⊢
  split at hholds
  · next w v' hw hv =>
    have hclause := (hf _).2 ⟨name, hname, w, hw, rfl⟩
    have hcompiled := hd.values _ (Table.mem_of_lookup hw)
    obtain ⟨x, hx, hsame⟩ := hcompiled.holds_iff.1 (he _ hclause)
    rw [hx, hv]
    exact Scalar.same_trans hsame hholds
  · cases hholds

theorem isProper_patternClauses (hp : p.IsMade) {asked : Option Term}
    (hf : patternClauses .default p asked = .ok f) : f.IsProper := by
  obtain ⟨subject, predicate, object, context, hsubject, hpredicate, hobject, -, rfl⟩ := patternClauses_eq_ok hf
  have hslot : ∀ {field : String} {t : Term} {f : Filter}, slotClauses field t = .ok f → ∀ c ∈ f, c.IsProper := by
    intro field t f hf c hc
    obtain ⟨form, -, rfl⟩ := exists_of_mem_slotClauses hf hc
    trivial
  have hproper : ∀ c ∈ object, c.IsProper := by
    unfold objectClauses at hobject
    split at hobject
    · next l hl =>
      obtain ⟨clause, hclause, hobject⟩ := bind_eq_ok.1 hobject
      cases hobject
      refine List.forall_mem_cons.2 ⟨?_, List.forall_mem_singleton.2 (isCompiled_literalClause hclause).isProper⟩
      show (languageField l).IsProper
      unfold languageField
      cases hlanguage : l.language? with
      | none => trivial
      | some v => exact (hp l hl).language v (eq_some_of_nonEmpty? hlanguage)
    · exact hslot hobject
  simp only [Filter.IsProper, List.forall_mem_append, List.forall_mem_singleton]
  exact ⟨⟨⟨hslot hsubject, hslot hpredicate⟩, hproper⟩, trivial⟩

end Queries

end TripleIndex
