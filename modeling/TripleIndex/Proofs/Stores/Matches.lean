import TripleIndex.Proofs.Deletions.Correctness
import TripleIndex.Proofs.Graphs.Steps
import TripleIndex.Proofs.Numbers.Whole
import TripleIndex.Proofs.Terms.Quoteless

/-!
What a literal matches. A pattern with a literal asks for the tag and for the value in the field of the codec, or
for the canonical form where there is no value. So a literal matches what its codec does not tell from it: texts
with the same lexical form, whatever their datatypes, numbers nearest to the same number of the format, dates of
the same millisecond and equal truth values. Integers are told apart up to `2 ^ 53`.
-/

namespace TripleIndex

/-! ## Documents of literals -/

/-- The object fields of a document whose object is a literal. -/
structure Document.Encodes (registry : Registry) (l : Literal) (d : Document) : Prop where
  encoded : ∃ fields, (registry.forLiteral l).encode l = .ok fields
  form : ∃ form, l.form = .ok form ∧ d.lookup Field.object = some (.text form)
  lang : d.lookup Field.lang = some (languageField l)
  value : (registry.forLiteral l).isIndexable l.lexical = true → ∃ value,
    (registry.forLiteral l).fieldValue l.lexical = .ok value ∧
      d.lookup (registry.forLiteral l).field = some value
  only : ∀ (family : CodecFamily) value, d.lookup family.field = some value →
    registry.forLiteral l = family ∧ family.fieldValue l.lexical = .ok value

theorem Document.lookup_encoded (id context subject predicate form value lang : Scalar) (family : CodecFamily) :
    let d : Document := [(Field.id, id), (Field.context, context), (Field.subject, subject),
      (Field.predicate, predicate), (Field.object, form), (family.field, value), (Field.lang, lang)]
    d.lookup Field.object = some form ∧ d.lookup Field.lang = some lang ∧
      ∀ other : CodecFamily, d.lookup other.field = if family = other then some value else none := by
  cases family <;> refine ⟨rfl, rfl, fun other => ?_⟩ <;> cases other <;> rfl

theorem encodes_document {registry : Registry} {triple : Pattern} {graph : Option Term} {l : Literal} {d : Document}
    (hobject : triple.object = .literal l) (h : document registry triple graph = .ok d) : d.Encodes registry l := by
  obtain ⟨context, subject, predicate, fields, hfields, rfl⟩ := document_eq_ok h
  rw [hobject] at hfields
  obtain ⟨encoded, hencoded, hfields⟩ := bind_eq_ok.1 (show _ >>= _ = Except.ok fields from hfields)
  cases hfields
  obtain ⟨form, hform, hvalue⟩ := encode_fields hencoded
  split at hvalue
  · next hindexable =>
    obtain ⟨value, hvalue, rfl⟩ := hvalue
    obtain ⟨hobject, hlang, hfields⟩ := Document.lookup_encoded (.text (documentId context subject predicate form))
      (.text context) (.text subject) (.text predicate) (.text form) value (languageField l) (registry.forLiteral l)
    refine ⟨⟨_, hencoded⟩, ⟨form, hform, hobject⟩, hlang, fun _ => ⟨value, hvalue, ?_⟩, fun other found hfound => ?_⟩
    · exact (hfields _).trans (if_pos rfl)
    · obtain ⟨rfl, heq⟩ := Option.ite_none_right_eq_some.1 ((hfields other).symm.trans hfound)
      rw [hvalue, Option.some.inj heq]
      exact ⟨rfl, rfl⟩
  · next hindexable =>
    subst hvalue
    refine ⟨⟨_, hencoded⟩, ⟨form, hform, rfl⟩, rfl, fun h => absurd h hindexable, fun other found hfound => ?_⟩
    cases other <;> cases hfound

/-! ## Literals that match -/

/-- What codecs do not tell apart: texts with the same lexical form, the same number, what is no number with the
same lexical form and datatype, dates of the same millisecond and equal truth values. -/
inductive Literal.Matches (a b : Literal) : Prop
  | text (ha : Registry.default.forLiteral a = .text) (hb : Registry.default.forLiteral b = .text)
      (h : a.lexical = b.lexical)
  | number {x y : Double} (ha : Registry.default.forLiteral a = .numeric)
      (hb : Registry.default.forLiteral b = .numeric) (hx : CodecFamily.numericValue a.lexical = .ok x)
      (hy : CodecFamily.numericValue b.lexical = .ok y) (h : x.same y = true)
  | nan (ha : a.IsNumericNan .default) (hb : b.IsNumericNan .default) (h : a.lexical = b.lexical)
      (hdatatype : a.datatype? = b.datatype?)
  | date {n : Int} (ha : Registry.default.forLiteral a = .date) (hb : Registry.default.forLiteral b = .date)
      (hx : epochMillis a.lexical = .ok n) (hy : epochMillis b.lexical = .ok n)
  | boolean {t : Bool} (ha : Registry.default.forLiteral a = .boolean)
      (hb : Registry.default.forLiteral b = .boolean) (hx : readBoolean (.text a.lexical) = .ok t)
      (hy : readBoolean (.text b.lexical) = .ok t)

section Clauses

variable {registry : Registry} {a b : Literal} {d : Document} {c : Clause}

theorem Clause.IsCompiled.holds_iff {name : String} {v : Scalar} (h : (Clause.term name v).IsCompiled) :
    (Clause.term name v).holds Schema.triples d = true ↔ ∃ w, d.lookup name = some w ∧ w.same v = true := by
  rw [Clause.holds, h.convert_eq]
  cases d.lookup name <;> simp

theorem literalClause_eq_ok (h : literalClause registry a = .ok c) :
    if (registry.forLiteral a).isIndexable a.lexical then ∃ value,
      (registry.forLiteral a).fieldValue a.lexical = .ok value ∧ c = .term (registry.forLiteral a).field value
    else ∃ form, a.form = .ok form ∧ c = .term Field.object (.text form) := by
  unfold literalClause at h
  dsimp only at h
  split at h
  · cases h
  split at h
  · next hindexable =>
    obtain ⟨value, hvalue, rfl⟩ := map_eq_ok.1 (show Except.map _ _ = _ from h)
    rw [if_pos hindexable]
    exact ⟨value, hvalue, rfl⟩
  · next hindexable =>
    obtain ⟨form, hform, h⟩ := bind_eq_ok.1 h
    cases h
    rw [if_neg hindexable]
    exact ⟨form, hform, rfl⟩

theorem noLanguage_not_isLanguageTag : isLanguageTag noLanguage.toList = false := by decide

theorem language?_eq_of_languageField (ha : ∀ v ∈ a.language?, ∃ tag, v = .text tag ∧ isLanguageTag tag.toList = true)
    (hb : ∀ v ∈ b.language?, ∃ tag, v = .text tag ∧ isLanguageTag tag.toList = true)
    (h : languageField a = languageField b) : a.language? = b.language? := by
  have hnone : ∀ {l : Literal}, (∀ v ∈ l.language?, ∃ tag, v = .text tag ∧ isLanguageTag tag.toList = true) →
      ∀ v ∈ l.language?, v ≠ .text noLanguage := by
    rintro l hl v hv rfl
    obtain ⟨tag, heq, htag⟩ := hl _ hv
    cases heq
    rw [noLanguage_not_isLanguageTag] at htag
    cases htag
  unfold languageField at h
  cases hlanguage : a.language? with
  | none =>
    cases hlanguage' : b.language? with
    | none => rfl
    | some w =>
      rw [hlanguage, hlanguage'] at h
      exact absurd h.symm (hnone hb w hlanguage')
  | some v =>
    cases hlanguage' : b.language? with
    | none =>
      rw [hlanguage, hlanguage'] at h
      exact absurd h (hnone ha v hlanguage)
    | some w =>
      rw [hlanguage, hlanguage'] at h
      exact congrArg some h

theorem Literal.IsNumericNan.of_holds {form : String} (hnan : a.IsNumericNan .default) (ha : a.IsMade)
    (hb : b.IsMade) (hd : d.Encodes .default b) (hform : a.form = .ok form)
    (hholds : (Clause.term Field.object (.text form)).holds Schema.triples d = true) :
    b.IsNumericNan .default ∧ a.lexical = b.lexical ∧ a.datatype? = b.datatype? := by
  obtain ⟨form', hform', hobject⟩ := hd.form
  rw [Clause.holds_text_iff rfl, hobject] at hholds
  cases hholds
  obtain ⟨fields, hvalid⟩ := hd.encoded
  obtain ⟨hlexical, hdatatype, hnumeric⟩ := hnan.eq_of_form ha hb (b.isSpelled_of_encode hvalid) hform hform'
  exact ⟨⟨hnumeric, hlexical ▸ hnan.2⟩, hlexical, hdatatype⟩

theorem matches_of_holds (ha : a.IsMade) (hb : b.IsMade) (hd : d.Encodes .default b)
    (hc : literalClause .default a = .ok c) (hholds : c.holds Schema.triples d = true) : a.Matches b := by
  have hcompiled := isCompiled_literalClause hc
  have hclause := literalClause_eq_ok hc
  split at hclause
  · obtain ⟨v, hv, rfl⟩ := hclause
    obtain ⟨w, hw, hsame⟩ := hcompiled.holds_iff.1 hholds
    -- a document has a value in the field of one codec only, so both literals belong to it
    obtain ⟨hfamily, hw⟩ := hd.only _ _ hw
    generalize hcodec : Registry.default.forLiteral a = family at *
    cases family with
    | text =>
      cases hv
      cases hw
      exact .text hcodec hfamily (beq_iff_eq.1 hsame).symm
    | numeric =>
      obtain ⟨x, hx, rfl⟩ := map_eq_ok.1 hv
      obtain ⟨y, hy, rfl⟩ := map_eq_ok.1 hw
      exact .number hcodec hfamily hx hy ((x.same_comm y).trans hsame)
    | date =>
      obtain ⟨m, hm, rfl⟩ := map_eq_ok.1 hv
      obtain ⟨n, hn, rfl⟩ := map_eq_ok.1 hw
      cases (beq_iff_eq.1 hsame : n = m)
      exact .date hcodec hfamily hm hn
    | boolean =>
      obtain ⟨t, ht, rfl⟩ := map_eq_ok.1 hv
      obtain ⟨u, hu, rfl⟩ := map_eq_ok.1 hw
      obtain rfl : u = t := by
        revert hsame
        cases u <;> cases t <;> decide
      exact .boolean hcodec hfamily ht hu
  · next hindexable =>
    obtain ⟨form, hform, rfl⟩ := hclause
    have hnan : a.IsNumericNan .default := by rwa [Literal.isIndexable_iff, not_not] at hindexable
    obtain ⟨hnan', hlexical, hdatatype⟩ := hnan.of_holds ha hb hd hform hholds
    exact .nan hnan hnan' hlexical hdatatype

/-- Integers that match are the same, unless both are `2 ^ 53` at least and one of them is larger. -/
theorem Literal.Matches.whole_eq {m n : Int} (h : a.Matches b) (hnumeric : Registry.default.forLiteral a = .numeric)
    (hm : whole? a.lexical = some m) (hn : whole? b.lexical = some n)
    (hsmall : m.natAbs < 2 ^ 53 ∨ n.natAbs < 2 ^ 53 ∨ m.natAbs ≤ 2 ^ 53 ∧ n.natAbs ≤ 2 ^ 53) : m = n := by
  cases h with
  | number _ _ hx hy hsame =>
    exact (roundsWhole_of_numericValue hm hx).eq_of_same (roundsWhole_of_numericValue hn hy) hsame hsmall
  | nan _ _ hlexical =>
    rw [hlexical] at hm
    exact Option.some.inj (hm.symm.trans hn)
  | text ha => exact absurd (ha.symm.trans hnumeric) (by decide)
  | date ha => exact absurd (ha.symm.trans hnumeric) (by decide)
  | boolean ha => exact absurd (ha.symm.trans hnumeric) (by decide)

/-- A literal that is searched by a text: its lexical form, or the canonical form of what is no number. -/
def Literal.IsSearchedByText (a : Literal) : Prop :=
  Registry.default.forLiteral a = .text ∨ a.IsNumericNan .default

theorem tab_notMem_literalClause (ha : a.IsMade) (hc : literalClause .default a = .ok c)
    (htab : a.IsSearchedByText → '\t' ∉ a.lexical.toList) : '\t' ∉ c.chars := by
  have hclause := literalClause_eq_ok hc
  split at hclause
  · obtain ⟨v, hv, rfl⟩ := hclause
    generalize hcodec : Registry.default.forLiteral a = family at *
    cases family with
    | text =>
      cases hv
      rw [Clause.tab_mem_chars_term rfl]
      exact htab (.inl hcodec)
    | numeric =>
      obtain ⟨x, hx, rfl⟩ := map_eq_ok.1 hv
      rw [Clause.tab_mem_chars_term rfl]
      exact Clause.tab_notMem_of_isBlankAroundNumber (Double.isBlankAroundNumber_text (isRounded_of_numericValue hx).1)
    | date =>
      obtain ⟨n, -, rfl⟩ := map_eq_ok.1 hv
      rw [Clause.tab_mem_chars_term rfl]
      exact Clause.tab_notMem_of_isBlankAroundNumber (isBlankAroundNumber_toString n)
    | boolean =>
      obtain ⟨t, -, rfl⟩ := map_eq_ok.1 hv
      cases t <;> decide
  · next hindexable =>
    obtain ⟨form, hform, rfl⟩ := hclause
    have hnan : a.IsNumericNan .default := by rwa [Literal.isIndexable_iff, not_not] at hindexable
    rw [Clause.tab_mem_chars_term rfl]
    exact fun hmem => htab (.inr hnan) (hnan.tab_mem ha hform hmem)

theorem tab_notMem_languageClause
    (ha : ∀ v ∈ a.language?, ∃ tag, v = .text tag ∧ isLanguageTag tag.toList = true) :
    '\t' ∉ (Clause.term Field.lang (languageField a)).chars := by
  rw [Clause.tab_mem_chars_term rfl]
  unfold languageField
  cases hlanguage : a.language? with
  | none => decide
  | some v =>
    obtain ⟨tag, rfl, htag⟩ := ha v hlanguage
    exact fun hmem => absurd (isTagChar_of_isLanguageTag htag hmem) (by decide)

end Clauses

/-! ## Searches and deletions -/

namespace Store

variable {s : Store} {p : Pattern} {g : Option Term} {q : Place} {d : Document} {a b : Literal}

/-- The query of a pattern selects the document at a place. -/
def Selects (s : Store) (p : Pattern) (g : Option Term) (q : Place) : Prop :=
  ∃ f selected, compile s.registry p (some (s.graph g)) = .ok f ∧ s.index.evaluate f none = .ok selected ∧
    q ∈ selected

/-- The deletion of a pattern removes the document at a place. -/
def Deletes (s : Store) (p : Pattern) (g : Option Term) (q : Place) : Prop :=
  (s.delete p g).1.index.at? q = none

/-- What a deletion removes holds every clause of the pattern as it is read back. -/
theorem holds_readBack_of_deletes (hs : s.Reachable .default) (hdelete : s.Deletes p g q)
    (hd : s.index.at? q = some d) : ∃ f read, patternClauses .default p (some (s.graph g)) = .ok f ∧
      List.Forall₂ Clause.ReadBack f read ∧ ∀ c ∈ read, c.holds Schema.triples d = true := by
  have hmaintained := hs.maintained
  unfold Deletes at hdelete
  rw [Store.delete, hmaintained.registry_eq, TripleIndex.deleteText] at hdelete
  cases hclauses : patternClauses .default p (some (s.graph g)) with
  | error cause =>
    rw [hclauses] at hdelete
    dsimp only at hdelete
    split at hdelete
    · cases hd.symm.trans hdelete
    · cases hd.symm.trans hdelete
  | ok f =>
    have hasked := isAsked_patternClauses hclauses
    obtain ⟨form, -, hgraph⟩ := Index.context_mem_of_patternClauses hclauses
    obtain ⟨read, hread, hback⟩ := Filter.ofText_text (fun c hc => (hasked c hc).asks) (List.ne_nil_of_mem hgraph)
    have hindex : (s.index.delete read).1.at? q = none := by
      rw [hclauses] at hdelete
      have hremoved : (s.index.deleteText f.text).1.at? q = none := hdelete
      rwa [Index.deleteText, hread] at hremoved
    refine ⟨f, read, rfl, hback, ?_⟩
    rcases Index.at?_delete hmaintained.index (Filter.isProper_of_readBack hback) q with hkept | ⟨-, d', hd', hholds⟩
    · cases hd.symm.trans (hkept.symm.trans hindex)
    · cases hd.symm.trans hd'
      exact List.all_eq_true.1 hholds

theorem holds_of_deletes (hs : s.Reachable .default) (hdelete : s.Deletes p g q) (hd : s.index.at? q = some d) :
    ∃ f, patternClauses .default p (some (s.graph g)) = .ok f ∧
      ∀ c ∈ f, c.IsCompiled → '\t' ∉ c.chars → c.holds Schema.triples d = true := by
  obtain ⟨f, read, hclauses, hback, hholds⟩ := holds_readBack_of_deletes hs hdelete hd
  refine ⟨f, hclauses, fun c hc hcompiled htab => ?_⟩
  obtain ⟨c', hc', hclause⟩ := exists_mem_of_forall₂ hback hc
  rw [← (hcompiled.survives hclause).same htab]
  exact hholds c' hc'

theorem holds_of_selects (hs : s.Reachable .default) (htag : p.HasTextTag) (hselects : s.Selects p g q)
    (hd : s.index.at? q = some d) : ∃ f, patternClauses .default p (some (s.graph g)) = .ok f ∧
      ∀ c ∈ f, c.holds Schema.triples d = true := by
  have hmaintained := hs.maintained
  obtain ⟨f, selected, hcompile, hselected, hq⟩ := hselects
  rw [hmaintained.registry_eq] at hcompile
  have hclauses := Index.patternClauses_of_compile hcompile
  have hproper : f.IsProper := fun c hc => ((isCompiled_patternClauses htag hclauses).1 c hc).isProper
  obtain ⟨d', hd', hholds⟩ := (hmaintained.index.mem_evaluate hproper hselected q).1 hq
  cases hd.symm.trans hd'
  exact ⟨f, hclauses, List.all_eq_true.1 hholds⟩

/-- A literal selects for a search, or for a deletion that asks for no tab, only documents of literals with its tag
that it matches, and of the integers up to `2 ^ 53` only the one that it is. -/
theorem literal_selects (hs : s.Reachable .default) (ha : a.IsMade) (hb : b.IsMade)
    (haccepted : ∃ fields, objectFields .default (.literal a) = .ok fields) (hobject : p.object = .literal a)
    {triple : Pattern} {graph : Option Term} (hstored : s.index.at? q = some d)
    (hd : document .default triple graph = .ok d) (hobject' : triple.object = .literal b)
    (hselected : s.Selects p g q ∨
      (a.IsSearchedByText → '\t' ∉ a.lexical.toList) ∧ s.Deletes p g q) :
    a.language? = b.language? ∧ a.Matches b ∧
      (Registry.default.forLiteral a = .numeric → ∀ m n : Int,
        whole? a.lexical = some m → whole? b.lexical = some n →
          m.natAbs < 2 ^ 53 ∨ n.natAbs < 2 ^ 53 ∨ m.natAbs ≤ 2 ^ 53 ∧ n.natAbs ≤ 2 ^ 53 → m = n) := by
  obtain ⟨fields, haccepted⟩ := haccepted
  obtain ⟨encoded, hvalid, -⟩ := bind_eq_ok.1 (show _ >>= _ = Except.ok fields from haccepted)
  obtain ⟨form, hform, -⟩ := encode_fields hvalid
  have htags := (a.form_toList ha (a.isSpelled_of_encode hvalid) hform).2
  have hencodes := encodes_document hobject' hd
  obtain ⟨encoded', hvalid'⟩ := hencodes.encoded
  obtain ⟨form', hform', -⟩ := hencodes.form
  have htags' := (b.form_toList hb (b.isSpelled_of_encode hvalid') hform').2
  obtain ⟨tag, htag⟩ := languageField_of_form hform
  have hlanguage : (Clause.term Field.lang (languageField a)).IsCompiled := htag ▸ .text tag rfl rfl
  -- to be searched or deleted, the document holds the clauses of the literal and of its tag
  obtain ⟨c, hc, hlang, hholds⟩ : ∃ c, literalClause .default a = .ok c ∧
      (Clause.term Field.lang (languageField a)).holds Schema.triples d = true ∧
      c.holds Schema.triples d = true := by
    have hclauses : ∀ {f}, patternClauses .default p (some (s.graph g)) = .ok f → ∃ c,
        literalClause .default a = .ok c ∧ .term Field.lang (languageField a) ∈ f ∧ c ∈ f := by
      intro f hf
      obtain ⟨subject, predicate, object, context, -, -, hclauses, -, rfl⟩ := patternClauses_eq_ok hf
      rw [hobject] at hclauses
      obtain ⟨c, hc, hclauses⟩ := bind_eq_ok.1 (show _ >>= _ = Except.ok object from hclauses)
      cases hclauses
      exact ⟨c, hc, by simp, by simp⟩
    rcases hselected with hselects | ⟨htab, hdeletes⟩
    · have htext : p.HasTextTag := by
        intro l hl v hv
        cases hobject.symm.trans hl
        obtain ⟨tag, rfl, -⟩ := htags v hv
        exact ⟨tag, rfl⟩
      obtain ⟨f, hf, hall⟩ := holds_of_selects hs htext hselects hstored
      obtain ⟨c, hc, hlang, hmem⟩ := hclauses hf
      exact ⟨c, hc, hall _ hlang, hall _ hmem⟩
    · obtain ⟨f, hf, hall⟩ := holds_of_deletes hs hdeletes hstored
      obtain ⟨c, hc, hlang, hmem⟩ := hclauses hf
      exact ⟨c, hc, hall _ hlang hlanguage (tab_notMem_languageClause htags),
        hall _ hmem (isCompiled_literalClause hc) (tab_notMem_literalClause ha hc htab)⟩
  have hmatches := matches_of_holds ha hb hencodes hc hholds
  refine ⟨?_, hmatches, fun hnumeric m n hm hn => hmatches.whole_eq hnumeric hm hn⟩
  rw [htag, Clause.holds_text_iff rfl, hencodes.lang, ← htag] at hlang
  exact language?_eq_of_languageField htags htags' (Option.some.inj hlang).symm

def holding (l : Literal) : Pattern := { stated "" with object := .literal l }

/-- With the triple of one literal stored, its document is selected and removed by the triple of another one. -/
def Takes (asked stored : Literal) : Prop := ∃ (s : Store) (q : Place) (d : Document), s.Reachable .default ∧
  document .default (holding stored) (some (s.graph none)) = .ok d ∧ s.index.at? q = some d ∧
    s.Selects (holding asked) none q ∧ s.Deletes (holding asked) none q

def takes (asked stored : Literal) : Except Fault Bool := do
  let s ← (← Store.make .default .default).insert (holding stored) none
  let d ← document .default (holding stored) (some (s.graph none))
  let selected ← s.index.evaluate (← compile s.registry (holding asked) (some (s.graph none))) none
  let q := d.quadruple.id.place
  return s.index.at? q = some d && (places selected.toList).contains q &&
    (s.delete (holding asked) none).1.index.at? q = none

theorem takes_of_run (asked stored : Literal) (h : (takes asked stored).toOption = some true) :
    Takes asked stored := by
  obtain ⟨empty, hempty, h⟩ := bind_eq_ok.1 (toOption_eq_some.1 h)
  obtain ⟨s, hs, h⟩ := bind_eq_ok.1 h
  obtain ⟨d, hd, h⟩ := bind_eq_ok.1 h
  obtain ⟨f, hf, h⟩ := bind_eq_ok.1 h
  obtain ⟨selected, hselected, h⟩ := bind_eq_ok.1 h
  have h := Except.ok.inj h
  simp only [Bool.and_eq_true, decide_eq_true_eq, List.contains_iff_mem] at h
  obtain ⟨⟨hat, hmem⟩, hdelete⟩ := h
  exact ⟨s, _, d, .insert (.make hempty) hs, hd, hat, ⟨f, selected, hf, hselected, hmem⟩, hdelete⟩

/-- A literal of a datatype of XML Schema. -/
def typed (datatype lexical : String) : Literal := ⟨.text lexical, none, some (.text (xsd datatype))⟩

theorem isMade_typed (datatype lexical : String) : (typed datatype lexical).IsMade where
  language v hv := by cases hv
  datatype v hv := by
    cases hv
    trivial
  single := .inl rfl

theorem literal_selects_fives : Takes (typed "decimal" "+5") (typed "int" "05") ∧
    (typed "decimal" "+5").language? = (typed "int" "05").language? ∧
    (typed "decimal" "+5").Matches (typed "int" "05") ∧
    ∀ m n : Int, whole? "+5" = some m → whole? "05" = some n → m.natAbs < 2 ^ 53 → m = n := by
  have htakes := takes_of_run (typed "decimal" "+5") (typed "int" "05") (by decide +kernel)
  obtain ⟨s, q, d, hs, hd, hat, hselects, hdeletes⟩ := htakes
  obtain ⟨hlanguage, hmatches, hwhole⟩ := literal_selects hs (isMade_typed "decimal" "+5") (isMade_typed "int" "05")
    ⟨_, rfl⟩ rfl hat hd rfl (.inl hselects)
  exact ⟨⟨s, q, d, hs, hd, hat, hselects, hdeletes⟩, hlanguage, hmatches,
    fun m n hm hn hsmall => hwhole (by decide) m n hm hn (.inl hsmall)⟩

/-- Literals of different datatypes, different integers and different instants that nothing tells apart. -/
theorem literal_selects_unequal :
    (Takes (.ofText "a") ⟨.text "a", none, some (.text "urn:t")⟩) ∧
    (Takes (typed "integer" "9007199254740992") (typed "integer" "9007199254740993") ∧
      whole? "9007199254740992" ≠ whole? "9007199254740993") ∧
    Takes (typed "dateTime" "2020-01-01T00:00:00") (typed "dateTime" "2020-01-01T00:00:00.0001") ∧
      (readDateTime? "2020-01-01T00:00:00".toList) ≠ readDateTime? "2020-01-01T00:00:00.0001".toList := by
  refine ⟨takes_of_run _ _ ?_, ⟨takes_of_run _ _ ?_, ?_⟩, takes_of_run _ _ ?_, ?_⟩ <;> decide +kernel

end Store

end TripleIndex
