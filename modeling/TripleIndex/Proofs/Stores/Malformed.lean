import TripleIndex.Proofs.Stores.Refusals
import TripleIndex.Proofs.Stores.SearchFields

/-!
Literals that are refused. What an insertion writes is the form of a literal and its value, what a pattern asks for is
the value alone if there is one. So the two refuse the same literals as long as the tag and the datatype of a literal go
with its text; one that does not keep to them is refused where it would be written, and is looked for and deleted
without a word.
-/

namespace TripleIndex

variable {registry : Registry} {l : Literal}

/-! ## Literals that keep to their tag and their datatype -/

/-- The parts of a literal go together: its tag is a language tag and its datatype a text, no surrogate is in what is
shown of it, and its text is an integer or a decimal where the datatype is one of those. -/
structure Literal.IsConsistent (l : Literal) : Prop where
  datatype : l.hasDatatypeText = true
  shown : l.hidden.any isSurrogate = false
  tag : l.HasLanguageTag
  integer : ∀ name ∈ CodecFamily.integerTypes, l.datatype = some (.text name) →
    isIntegerShape (trim l.lexical.toList) = true
  decimal : l.datatype = some (.text (xsd "decimal")) → isDecimalShape (trim l.lexical.toList) = true

theorem exists_form_iff : (∃ form, l.form = .ok form) ↔ l.isWritable = true ∧ l.hasDatatypeText = true ∧
    l.hidden.any isSurrogate = false ∧ l.HasLanguageTag := by
  constructor
  · rintro ⟨form, h⟩
    obtain ⟨htext, hwritable, hhidden, hchars⟩ := Literal.form_eq_ok.1 h
    exact ⟨hwritable, htext, hhidden, Literal.hasLanguageTag_of_formChars hchars⟩
  · rintro ⟨hwritable, htext, hhidden, htag⟩
    obtain ⟨cs, hcs⟩ := Literal.exists_formChars htag
    exact ⟨String.ofList cs, Literal.form_eq_ok.2 ⟨htext, hwritable, hhidden, by rw [hcs, String.toList_ofList]⟩⟩

theorem checkNumeric_eq_ok : CodecFamily.checkNumeric l = .ok () ↔
    (∀ name ∈ CodecFamily.integerTypes, l.datatype = some (.text name) →
      isIntegerShape (trim l.lexical.toList) = true) ∧
    (l.datatype = some (.text (xsd "decimal")) → isDecimalShape (trim l.lexical.toList) = true) := by
  have hdatatype : ∀ name : String, l.datatype.getD .null = .text name ↔ l.datatype = some (.text name) := by
    intro name
    cases l.datatype <;> simp
  have hinteger : (CodecFamily.integerTypes.map Scalar.text).contains (l.datatype.getD .null) = true ↔
      ∃ name ∈ CodecFamily.integerTypes, l.datatype = some (.text name) := by
    rw [List.contains_iff_mem, List.mem_map]
    simp only [← hdatatype, eq_comm]
  unfold CodecFamily.checkNumeric
  dsimp only
  split
  · next hshape =>
    obtain ⟨hmem, hshape⟩ := Bool.and_eq_true_iff.1 hshape
    obtain ⟨name, hname, heq⟩ := hinteger.1 hmem
    refine iff_of_false (by simp) fun h => ?_
    rw [h.1 name hname heq] at hshape
    cases hshape
  next hnotInteger =>
  split
  · next hshape =>
    obtain ⟨heq, hshape⟩ := Bool.and_eq_true_iff.1 hshape
    refine iff_of_false (by simp) fun h => ?_
    rw [h.2 ((hdatatype _).1 (of_decide_eq_true heq))] at hshape
    cases hshape
  · next hnotDecimal =>
    refine iff_of_true rfl ⟨fun name hname heq => ?_, fun heq => ?_⟩
    · rw [hinteger.2 ⟨name, hname, heq⟩] at hnotInteger
      simpa using hnotInteger
    · rw [(hdatatype _).2 heq] at hnotDecimal
      simpa using hnotDecimal

theorem forLiteral_of_checked {name : String} (hname : name ∈ xsd "decimal" :: CodecFamily.integerTypes)
    (h : l.datatype = some (.text name)) : Registry.default.forLiteral l = .numeric := by
  have hfamily : ∀ name ∈ xsd "decimal" :: CodecFamily.integerTypes,
      (Registry.default.lookup (some name)).family = .numeric := by decide
  rw [Registry.forLiteral, h]
  exact hfamily name hname

/-! ## What is written and what is asked for -/

theorem exists_encodeValue_iff {family : CodecFamily} : (∃ fields, family.encodeValue l = .ok fields) ↔
    (∃ form, l.form = .ok form) ∧ ∃ v, family.fieldValue l.lexical = .ok v := by
  constructor
  · rintro ⟨fields, h⟩
    obtain ⟨form, hform, h⟩ := bind_eq_ok.1 h
    obtain ⟨v, hv, -⟩ := bind_eq_ok.1 h
    exact ⟨⟨form, hform⟩, v, hv⟩
  · rintro ⟨⟨form, hform⟩, v, hv⟩
    exact ⟨_, bind_eq_ok.2 ⟨form, hform, bind_eq_ok.2 ⟨v, hv, rfl⟩⟩⟩

/-- A literal is encoded if it has a form, is what the codec of numbers wants if it comes to that one, and has a value
unless it needs none. -/
theorem exists_encode_iff {family : CodecFamily} : (∃ fields, family.encode l = .ok fields) ↔
    (∃ form, l.form = .ok form) ∧ (family = .numeric → CodecFamily.checkNumeric l = .ok ()) ∧
      (family.isIndexable l.lexical = true → ∃ v, family.fieldValue l.lexical = .ok v) := by
  cases family with
  | numeric =>
    constructor
    · rintro ⟨fields, h⟩
      unfold CodecFamily.encode at h
      dsimp only at h
      split at h
      · cases h
      obtain ⟨_, hcheck, h⟩ := bind_eq_ok.1 h
      split at h
      · obtain ⟨hform, hvalue⟩ := exists_encodeValue_iff.1 ⟨fields, h⟩
        exact ⟨hform, fun _ => hcheck, fun _ => hvalue⟩
      · next hindexable =>
        obtain ⟨form, hform, -⟩ := bind_eq_ok.1 h
        exact ⟨⟨form, hform⟩, fun _ => hcheck, fun h => absurd h hindexable⟩
    · rintro ⟨⟨form, hform⟩, hcheck, hvalue⟩
      unfold CodecFamily.encode
      dsimp only
      rw [l.isWritable_of_form hform, if_neg (by decide), hcheck rfl]
      by_cases hindexable : CodecFamily.numeric.isIndexable l.lexical = true
      · obtain ⟨fields, hfields⟩ := exists_encodeValue_iff.2 ⟨⟨form, hform⟩, hvalue hindexable⟩
        exact ⟨fields, (if_pos hindexable).trans hfields⟩
      · exact ⟨_, (if_neg hindexable).trans (bind_eq_ok.2 ⟨form, hform, rfl⟩)⟩
  | _ => exact exists_encodeValue_iff.trans (by simp [CodecFamily.isIndexable])

theorem exists_literalClause_iff : (∃ clause, literalClause registry l = .ok clause) ↔ l.isWritable = true ∧
    if (registry.forLiteral l).isIndexable l.lexical = true then
      ∃ v, (registry.forLiteral l).fieldValue l.lexical = .ok v
    else ∃ form, l.form = .ok form := by
  unfold literalClause
  dsimp only
  cases hwritable : l.isWritable with
  | false => exact iff_of_false (by rintro ⟨clause, h⟩; cases h) (by simp)
  | true =>
    rw [if_neg (by decide), eq_self, true_and]
    split
    · exact exists_map_eq_ok
    · constructor
      · rintro ⟨clause, h⟩
        obtain ⟨form, hform, -⟩ := bind_eq_ok.1 h
        exact ⟨form, hform⟩
      · rintro ⟨form, hform⟩
        exact ⟨_, bind_eq_ok.2 ⟨form, hform, rfl⟩⟩

/-- A literal is written if and only if it can be asked for and its parts go together. -/
theorem exists_encode_iff_literalClause : (∃ fields, (Registry.default.forLiteral l).encode l = .ok fields) ↔
    (∃ clause, literalClause .default l = .ok clause) ∧ l.IsConsistent := by
  have hnumeric : (Registry.default.forLiteral l = .numeric → CodecFamily.checkNumeric l = .ok ()) ↔
      CodecFamily.checkNumeric l = .ok () := by
    refine ⟨fun h => checkNumeric_eq_ok.2 ⟨fun name hname hl => ?_, fun hl => ?_⟩, fun h _ => h⟩
    · exact (checkNumeric_eq_ok.1 (h (forLiteral_of_checked (List.mem_cons_of_mem _ hname) hl))).1 name hname hl
    · exact (checkNumeric_eq_ok.1 (h (forLiteral_of_checked List.mem_cons_self hl))).2 hl
  have hconsistent : l.IsConsistent ∧ l.isWritable = true ↔
      (∃ form, l.form = .ok form) ∧ CodecFamily.checkNumeric l = .ok () := by
    rw [exists_form_iff, checkNumeric_eq_ok]
    constructor
    · rintro ⟨⟨htext, hshown, htag, hinteger, hdecimal⟩, hwritable⟩
      exact ⟨⟨hwritable, htext, hshown, htag⟩, hinteger, hdecimal⟩
    · rintro ⟨⟨hwritable, htext, hshown, htag⟩, hinteger, hdecimal⟩
      exact ⟨⟨htext, hshown, htag, hinteger, hdecimal⟩, hwritable⟩
  rw [exists_encode_iff, exists_literalClause_iff, hnumeric, ← and_assoc, ← hconsistent]
  constructor
  · rintro ⟨⟨hl, hwritable⟩, hvalue⟩
    refine ⟨⟨hwritable, ?_⟩, hl⟩
    split
    · next hindexable => exact hvalue hindexable
    · exact (hconsistent.1 ⟨hl, hwritable⟩).1
  · rintro ⟨⟨hwritable, hvalue⟩, hl⟩
    exact ⟨⟨hl, hwritable⟩, fun hindexable => by rwa [if_pos hindexable] at hvalue⟩

/-! ## Refusals -/

/-- The kind of fault that a call is refused with. -/
def refusedWith? {α : Type} : Except Fault α → Option FaultKind
  | .error f => some f.kind
  | .ok _ => none

section Refusals

variable {α : Type} {p : Pattern} {graph : Option Term}

theorem refusedWith?_reported {f : Fault} (hkind : f.kind ≠ .invalidValue) :
    refusedWith? (.error f.reported : Except Fault α) = some f.kind ↔ f.isWritable = true := by
  rw [refusedWith?, Option.some.injEq]
  exact ⟨fun h => (Store.kind_reported h hkind).1, fun h => congrArg Fault.kind (Fault.reported_of_isWritable h)⟩

theorem refusedWith?_compile : refusedWith? (compile registry p graph) = some .uncompilable ↔
    p.isWritable = true ∧ ¬ ∃ f, patternClauses registry p graph = .ok f := by
  unfold compile
  cases hclauses : patternClauses registry p graph with
  | ok f => exact iff_of_false nofun fun h => h.2 ⟨f, rfl⟩
  | error cause =>
    have hplain : (cause.isValueFault || cause.isTypeFault) = true := isPlain_patternClauses hclauses
    have hrefusal : refusedWith? (.error (Fault.cannotCompile p cause).reported : Except Fault Filter) =
        some .uncompilable ↔ p.isWritable = true := refusedWith?_reported (by simp [Fault.kind])
    have hcaught : cause.isValueFault || cause.isTypeFault || cause.kind = .unsupportedConstraint := by
      rw [hplain, Bool.true_or]
    dsimp only
    rw [if_pos hcaught, hrefusal]
    simp

theorem refusedWith?_deleteText : refusedWith? (deleteText registry p graph) = some .uncompilable ↔
    p.isWritable = true ∧ ¬ ∃ f, patternClauses registry p graph = .ok f := by
  unfold deleteText
  cases hclauses : patternClauses registry p graph with
  | ok f => exact iff_of_false nofun fun h => h.2 ⟨f, rfl⟩
  | error cause =>
    have hplain : (cause.isValueFault || cause.isTypeFault) = true := isPlain_patternClauses hclauses
    have hrefusal : refusedWith? (.error (Fault.cannotCompileDelete p cause).reported : Except Fault String) =
        some .uncompilable ↔ p.isWritable = true := refusedWith?_reported (by simp [Fault.kind])
    dsimp only
    rw [if_pos hplain, hrefusal]
    simp

theorem refusedWith?_insert {s : Store} (hs : s.Reachable registry) (g : Option Term) :
    refusedWith? (s.insert p g) = some .addDenied ↔
      p.isWritable = true ∧ ¬ ∃ d, document registry p (some (s.graph g)) = .ok d := by
  cases hd : document registry p (some (s.graph g)) with
  | ok d =>
    refine iff_of_false ?_ fun h => h.2 ⟨d, rfl⟩
    cases hinsert : s.insert p g with
    | ok after => nofun
    | error f =>
      obtain ⟨cause, hcause, -⟩ := hs.insert_eq_error.1 hinsert
      cases hd.symm.trans hcause
  | error cause =>
    have hrefusal : refusedWith? (.error (Fault.cannotAdd p cause).reported : Except Fault Store) =
        some .addDenied ↔ p.isWritable = true := refusedWith?_reported (by simp [Fault.kind])
    rw [hs.insert_eq_error.2 ⟨cause, hd, rfl⟩, hrefusal]
    simp

end Refusals

/-! ## Triples whose other parts are well-formed -/

section Triples

variable {subject predicate : Term} {graph : Option Term} {a b c : String}

theorem exists_patternClauses_iff (hsubject : subject.form = .ok a) (hpredicate : predicate.form = .ok b)
    (hgraph : graphForm graph = .ok c) : (∃ f, patternClauses registry ⟨subject, predicate, .literal l⟩ graph = .ok f) ↔
      ∃ clause, literalClause registry l = .ok clause := by
  constructor
  · rintro ⟨f, h⟩
    obtain ⟨_, -, h⟩ := bind_eq_ok.1 h
    obtain ⟨_, -, h⟩ := bind_eq_ok.1 h
    obtain ⟨object, hobject, -⟩ := bind_eq_ok.1 h
    obtain ⟨clause, hclause, -⟩ := bind_eq_ok.1 hobject
    exact ⟨clause, hclause⟩
  · rintro ⟨clause, hclause⟩
    have hobject : objectClauses registry (.literal l) = .ok [.term Field.lang (languageField l), clause] :=
      bind_eq_ok.2 ⟨clause, hclause, rfl⟩
    exact ⟨_, bind_eq_ok.2 ⟨_, slotClauses_of_form hsubject, bind_eq_ok.2 ⟨_, slotClauses_of_form hpredicate,
      bind_eq_ok.2 ⟨_, hobject, bind_eq_ok.2 ⟨c, hgraph, rfl⟩⟩⟩⟩⟩

theorem exists_document_iff (hsubject : subject.form = .ok a) (hpredicate : predicate.form = .ok b)
    (hgraph : graphForm graph = .ok c) : (∃ d, document registry ⟨subject, predicate, .literal l⟩ graph = .ok d) ↔
      ∃ fields, (registry.forLiteral l).encode l = .ok fields := by
  have hconcrete : (Pattern.mk subject predicate (.literal l)).isConcrete = true := by
    cases subject with
    | var name => cases hsubject
    | _ =>
      cases predicate with
      | var name => cases hpredicate
      | _ => rfl
  unfold document
  rw [hconcrete, if_neg (by decide)]
  constructor
  · rintro ⟨d, h⟩
    obtain ⟨_, -, h⟩ := bind_eq_ok.1 h
    obtain ⟨_, -, h⟩ := bind_eq_ok.1 h
    obtain ⟨_, -, h⟩ := bind_eq_ok.1 h
    obtain ⟨fields, hfields, -⟩ := bind_eq_ok.1 h
    obtain ⟨encoded, hencoded, -⟩ := bind_eq_ok.1 hfields
    exact ⟨encoded, hencoded⟩
  · rintro ⟨encoded, hencoded⟩
    have hfields : objectFields registry (.literal l) = .ok (encoded ++ [(Field.lang, languageField l)]) :=
      bind_eq_ok.2 ⟨encoded, hencoded, rfl⟩
    exact ⟨_, bind_eq_ok.2 ⟨c, hgraph, bind_eq_ok.2 ⟨a, hsubject, bind_eq_ok.2 ⟨b, hpredicate,
      bind_eq_ok.2 ⟨_, hfields, rfl⟩⟩⟩⟩⟩

end Triples

namespace Store

variable {s : Store} {subject predicate : Term} {a b c : String}

/-- A literal that cannot be asked for cannot be deleted or added either. Of the literals that can be asked for, those
cannot be added whose tag or datatype does not go with their text. -/
theorem refused_literal (hs : s.Reachable .default) {g : Option Term} (hsubject : subject.form = .ok a)
    (hpredicate : predicate.form = .ok b) (hgraph : graphForm (some (s.graph g)) = .ok c) (l : Literal) :
    let triple : Pattern := ⟨subject, predicate, .literal l⟩
    (refusedWith? (compile s.registry triple (some (s.graph g))) = some .uncompilable ↔
      refusedWith? (deleteText s.registry triple (some (s.graph g))) = some .uncompilable) ∧
    (refusedWith? (s.insert triple g) = some .addDenied ↔
      refusedWith? (compile s.registry triple (some (s.graph g))) = some .uncompilable ∨
        l.isWritable = true ∧ ¬ l.IsConsistent) := by
  dsimp only
  have hwritable : (Pattern.mk subject predicate (.literal l)).isWritable = l.isWritable := by
    rw [Pattern.isWritable, Term.isWritable_of_form hsubject, Term.isWritable_of_form hpredicate, Bool.true_and,
      Bool.true_and]
    rfl
  rw [hs.maintained.registry_eq, refusedWith?_deleteText, refusedWith?_compile, refusedWith?_insert hs, hwritable,
    exists_patternClauses_iff hsubject hpredicate hgraph, exists_document_iff hsubject hpredicate hgraph,
    exists_encode_iff_literalClause]
  refine ⟨Iff.rfl, ?_⟩
  tauto

def statedAs (l : Literal) : Pattern := { stated "" with object := .literal l }

/-- How an insertion, a query and a deletion of a triple with a literal are refused in the default graph. -/
def refusedThrice (s : Store) (l : Literal) : Option FaultKind × Option FaultKind × Option FaultKind :=
  let graph := some (s.graph none)
  (refusedWith? (s.insert (statedAs l) none), refusedWith? (compile s.registry (statedAs l) graph),
    refusedWith? (TripleIndex.deleteText s.registry (statedAs l) graph))

/-- No truth value. -/
def undecided : Literal := ⟨.text "perhaps", none, some (.text (xsd "boolean"))⟩

theorem refused_literal_undecided : ∃ (s : Store) (c : String), s.Reachable .default ∧
    graphForm (some (s.graph none)) = .ok c ∧
    s.refusedThrice undecided = (some .addDenied, some .uncompilable, some .uncompilable) ∧
    (refusedWith? (s.insert (statedAs undecided) none) = some .addDenied ↔
      refusedWith? (compile s.registry (statedAs undecided) (some (s.graph none))) = some .uncompilable ∨
        undecided.isWritable = true ∧ ¬ undecided.IsConsistent) := by
  have hrun : ((Store.make .default .default).toOption.any fun s => (graphForm (some (s.graph none))).isOk &&
      s.refusedThrice undecided = (some .addDenied, some .uncompilable, some .uncompilable)) = true := by
    decide +kernel
  simp only [Option.any_eq_true, toOption_eq_some, Bool.and_eq_true, decide_eq_true_eq] at hrun
  obtain ⟨s, hs, hgraph, hrefused⟩ := hrun
  cases hform : graphForm (some (s.graph none)) with
  | error f =>
    rw [hform] at hgraph
    cases hgraph
  | ok c =>
    have hsubject : (statedAs undecided).subject.form = .ok "<http://example.org/s>" := rfl
    have hpredicate : (statedAs undecided).predicate.form = .ok "<http://example.org/p>" := rfl
    obtain ⟨-, hinsert⟩ := refused_literal (.make hs) hsubject hpredicate hform undecided
    exact ⟨s, c, .make hs, hform, hrefused, hinsert⟩

/-- A fraction that is said to be an integer. -/
def fractional : Literal := ⟨.text "1.5", none, some (.text (xsd "integer"))⟩

/-- A text with a tag that is none. -/
def mistagged : Literal := ⟨.text "chat", some (.text "f_r"), none⟩

/-- Neither can be added, and both are looked for and deleted without a word. -/
theorem refused_literal_fractional : ∃ (s : Store) (c : String), s.Reachable .default ∧
    graphForm (some (s.graph none)) = .ok c ∧ s.refusedThrice fractional = (some .addDenied, none, none) ∧
      s.refusedThrice mistagged = (some .addDenied, none, none) := by
  have hrun : ((Store.make .default .default).toOption.any fun s => (graphForm (some (s.graph none))).isOk &&
      s.refusedThrice fractional = (some .addDenied, none, none) &&
        s.refusedThrice mistagged = (some .addDenied, none, none)) = true := by decide +kernel
  simp only [Option.any_eq_true, toOption_eq_some, Bool.and_eq_true, decide_eq_true_eq] at hrun
  obtain ⟨s, hs, ⟨hgraph, hfractional⟩, hmistagged⟩ := hrun
  cases hform : graphForm (some (s.graph none)) with
  | error f =>
    rw [hform] at hgraph
    cases hgraph
  | ok c => exact ⟨s, c, .make hs, hform, hfractional, hmistagged⟩

end Store

end TripleIndex
