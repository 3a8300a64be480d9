import TripleIndex.Compile
import TripleIndex.Proofs.Filters.Tabs
import TripleIndex.Proofs.Instants
import TripleIndex.Proofs.NaiveScan
import TripleIndex.Proofs.Numbers.ReadBack
import TripleIndex.Proofs.Numbers.Shapes

/-!
What the clauses of a pattern select once they are printed and read back. Each of them asks for a text, a
number, an instant or a truth value. Read back it selects the same documents, unless its text has a tab:
then it selects no document that the clause selects.
-/

namespace TripleIndex

variable {clause read : Clause}

/-- A clause that a pattern is compiled to: its value is of the type of its field. -/
inductive Clause.IsCompiled : Clause → Prop
  | text {name : String} (text : String) (hname : isFieldName name = true)
      (htype : Schema.triples.type? name = some .text) : IsCompiled (.term name (.text text))
  | number {x : Double} (hx : x.IsRounded) (hnan : x.isNan = false) :
    IsCompiled (.term Field.numericObject (.float x))
  | instant {n : Int} (hn : isWritableInteger n = true) : IsCompiled (.term Field.dateObject (.int n))
  | truth (b : Bool) : IsCompiled (.term Field.booleanObject (.bool b))

/-- The tag of the object is a text, if the object is a literal with a tag. -/
def Pattern.HasTextTag (p : Pattern) : Prop := ∀ l, p.object = .literal l → ∀ v ∈ l.language?, ∃ tag, v = .text tag

/-! ## The clauses of a pattern -/

theorem isCompiled_slotClauses {field : String} {t : Term} {f : Filter} (hname : isFieldName field = true)
    (htype : Schema.triples.type? field = some .text) (h : slotClauses field t = .ok f) :
    ∀ c ∈ f, c.IsCompiled := by
  unfold slotClauses at h
  split at h
  · cases h
    simp
  · obtain ⟨form, -, rfl⟩ := map_eq_ok.1 h
    simpa using .text form hname htype

theorem isCompiled_valueClause {family : CodecFamily} {lexical : String}
    (h : family.valueClause lexical = .ok clause) : clause.IsCompiled := by
  obtain ⟨value, hvalue, rfl⟩ := map_eq_ok.1 h
  cases family with
  | text =>
    cases hvalue
    exact .text lexical rfl rfl
  | numeric =>
    obtain ⟨x, hx, rfl⟩ := map_eq_ok.1 hvalue
    obtain ⟨hrounded, hnan⟩ := isRounded_of_numericValue hx
    exact .number hrounded hnan
  | date =>
    obtain ⟨n, hn, rfl⟩ := map_eq_ok.1 hvalue
    exact .instant (isWritableInteger_epochMillis hn)
  | boolean =>
    obtain ⟨b, -, rfl⟩ := map_eq_ok.1 hvalue
    exact .truth b

theorem isCompiled_literalClause {registry : Registry} {l : Literal}
    (h : literalClause registry l = .ok clause) : clause.IsCompiled := by
  unfold literalClause at h
  dsimp only at h
  split at h
  · cases h
  split at h
  · exact isCompiled_valueClause h
  · obtain ⟨form, -, h⟩ := bind_eq_ok.1 h
    cases h
    exact .text form rfl rfl

theorem isCompiled_objectClauses {registry : Registry} {p : Pattern} {f : Filter} (htag : p.HasTextTag)
    (h : objectClauses registry p.object = .ok f) : ∀ c ∈ f, c.IsCompiled := by
  unfold objectClauses at h
  split at h
  · next l hobject =>
    obtain ⟨clause, hclause, h⟩ := bind_eq_ok.1 h
    cases h
    obtain ⟨tag, hvalue⟩ : ∃ tag, languageField l = .text tag := by
      unfold languageField
      cases hlanguage : l.language? with
      | none => exact ⟨_, rfl⟩
      | some v => exact htag l hobject v hlanguage
    refine List.forall_mem_cons.2 ⟨?_, List.forall_mem_cons.2 ⟨isCompiled_literalClause hclause, by simp⟩⟩
    rw [hvalue]
    exact .text tag rfl rfl
  · exact isCompiled_slotClauses rfl rfl h

theorem patternClauses_eq_ok {registry : Registry} {p : Pattern} {graph : Option Term} {f : Filter}
    (h : patternClauses registry p graph = .ok f) : ∃ subject predicate object context,
      slotClauses Field.subject p.subject = .ok subject ∧ slotClauses Field.predicate p.predicate = .ok predicate ∧
      objectClauses registry p.object = .ok object ∧ graphForm graph = .ok context ∧
      f = subject ++ predicate ++ object ++ [.term Field.context (.text context)] := by
  obtain ⟨subject, hsubject, h⟩ := bind_eq_ok.1 h
  obtain ⟨predicate, hpredicate, h⟩ := bind_eq_ok.1 h
  obtain ⟨object, hobject, h⟩ := bind_eq_ok.1 h
  obtain ⟨context, hcontext, h⟩ := bind_eq_ok.1 h
  cases h
  exact ⟨subject, predicate, object, context, hsubject, hpredicate, hobject, hcontext, rfl⟩

theorem isCompiled_patternClauses {registry : Registry} {p : Pattern} {graph : Option Term} {f : Filter}
    (htag : p.HasTextTag) (h : patternClauses registry p graph = .ok f) :
    (∀ c ∈ f, c.IsCompiled) ∧ f ≠ [] := by
  obtain ⟨subject, predicate, object, context, hsubject, hpredicate, hobject, -, rfl⟩ := patternClauses_eq_ok h
  refine ⟨?_, by simp⟩
  simp only [List.forall_mem_append, List.forall_mem_singleton]
  exact ⟨⟨⟨isCompiled_slotClauses rfl rfl hsubject, isCompiled_slotClauses rfl rfl hpredicate⟩,
    isCompiled_objectClauses htag hobject⟩, .text context rfl rfl⟩

/-! ## Clauses read back -/

namespace Clause

theorem IsCompiled.asks (h : clause.IsCompiled) : clause.Asks := by
  cases h with
  | text text hname htype => exact hname
  | number => exact show isFieldName Field.numericObject = true from rfl
  | instant => exact show isFieldName Field.dateObject = true from rfl
  | truth => exact show isFieldName Field.booleanObject = true from rfl

theorem IsCompiled.isProper (h : clause.IsCompiled) : clause.IsProper := by
  cases h <;> trivial

theorem holds_congr {schema : Schema} {name : String} {v w : Scalar}
    (h : schema.convert name v = schema.convert name w) (d : Document) :
    (term name v).holds schema d = (term name w).holds schema d := by
  simp only [holds, h]

theorem suits_term {schema : Schema} {name : String} {v w : Scalar} (h : schema.convert name v = .ok w) :
    (term name v).Suits schema := by
  obtain ⟨t, ht, -⟩ := Schema.convert_eq_ok.1 h
  exact ⟨Option.isSome_iff_exists.2 ⟨t, ht⟩, w, h⟩

theorem convert_text {name : String} (htype : Schema.triples.type? name = some .text) (text : String) :
    Schema.triples.convert name (.text text) = .ok (.text text) :=
  Schema.convert_eq_ok.2 ⟨.text, htype, rfl⟩

theorem holds_text_iff {name : String} (htype : Schema.triples.type? name = some .text) {s : String} {d : Document} :
    (term name (.text s)).holds Schema.triples d = true ↔ d.lookup name = some (.text s) := by
  simp only [holds, convert_text htype]
  cases d.lookup name with
  | none => simp
  | some w =>
    rw [Option.some.injEq]
    cases w with
    | text t => simp [Scalar.same_text]
    | _ => exact iff_of_false Bool.false_ne_true (by simp)

theorem not_holds_of_ne {name : String} (htype : Schema.triples.type? name = some .text) {s t : String}
    (hne : s ≠ t) (d : Document) :
    ¬((term name (.text s)).holds Schema.triples d = true ∧ (term name (.text t)).holds Schema.triples d = true) := by
  rw [holds_text_iff htype, holds_text_iff htype]
  rintro ⟨hs, ht⟩
  exact hne (Scalar.text.inj (Option.some.inj (hs.symm.trans ht)))

/-- What a clause of a pattern selects when it is read back. -/
structure Survives (clause read : Clause) : Prop where
  proper : clause.IsProper ∧ read.IsProper
  suits : clause.Suits Schema.triples ∧ read.Suits Schema.triples
  same : '\t' ∉ clause.chars → ∀ d, read.holds Schema.triples d = clause.holds Schema.triples d
  apart : '\t' ∈ clause.chars → ∀ d,
    ¬(read.holds Schema.triples d = true ∧ clause.holds Schema.triples d = true)

/-- A value without a tab that is converted from its text survives. -/
theorem survives_of_convert {name text : String} {v w : Scalar} (hv : v.IsProper)
    (hname : isFieldName name = true) (htab : '\t' ∉ v.formatted.toList) (h : Spread v.formatted.toList text.toList)
    (hvalue : Schema.triples.convert name v = .ok w)
    (hread : Schema.triples.convert name (.text v.formatted) = .ok w) :
    (term name v).Survives (term name (.text text)) := by
  obtain rfl : text = v.formatted := String.toList_inj.1 (h.eq_of_notMem htab)
  refine ⟨⟨hv, trivial⟩, ⟨suits_term hvalue, suits_term hread⟩,
    fun _ d => holds_congr (hread.trans hvalue.symm) d, fun hmem => ?_⟩
  exact absurd ((tab_mem_chars_term hname v).1 hmem) htab

theorem tab_notMem_of_isBlankAroundNumber {cs : List Char} (h : ∀ c ∈ cs, isBlankAroundNumber c = false) :
    '\t' ∉ cs := fun hmem => absurd (h '\t' hmem) (by decide)

theorem IsCompiled.survives (hclause : clause.IsCompiled) (h : clause.ReadBack read) : clause.Survives read := by
  -- Only a text can hold a tab. The other values are written without one and read as themselves.
  cases hclause with
  | @text name value hname htype =>
    obtain ⟨-, hspread⟩ := h
    rename_i text
    rw [Scalar.formatted_text] at hspread
    refine ⟨⟨trivial, trivial⟩, ⟨suits_term (convert_text htype value), suits_term (convert_text htype text)⟩,
      fun htab d => ?_, fun htab d => ?_⟩
    · rw [tab_mem_chars_term hname, Scalar.formatted_text] at htab
      rw [String.toList_inj.1 (hspread.eq_of_notMem htab)]
    · rw [tab_mem_chars_term hname, Scalar.formatted_text] at htab
      refine not_holds_of_ne htype ?_ d
      rintro rfl
      exact hspread.notMem htab
  | @number x hx hnan =>
    obtain ⟨hname, hspread⟩ := h
    have hread : doubleOf x.text = .ok x := by rw [doubleOf, Double.readDouble?_text hx hnan]
    refine survives_of_convert trivial hname ?_ hspread (w := .float x) (Schema.convert_eq_ok.2 ⟨.double, rfl, rfl⟩)
      (Schema.convert_eq_ok.2 ⟨.double, rfl, ?_⟩)
    · exact tab_notMem_of_isBlankAroundNumber (Double.isBlankAroundNumber_text hx)
    · exact congrArg (Except.map Scalar.float) hread
  | @instant n hn =>
    obtain ⟨hname, hspread⟩ := h
    refine survives_of_convert trivial hname ?_ hspread (w := .int n) (Schema.convert_eq_ok.2 ⟨.integer, rfl, rfl⟩)
      (Schema.convert_eq_ok.2 ⟨.integer, rfl, ?_⟩)
    · exact tab_notMem_of_isBlankAroundNumber (isBlankAroundNumber_toString n)
    · exact congrArg (Except.map Scalar.int) (integerOf_toString hn)
  | truth b =>
    obtain ⟨hname, hspread⟩ := h
    cases b
    · exact survives_of_convert trivial hname (by decide) hspread (Schema.convert_eq_ok.2 ⟨.boolean, rfl, rfl⟩)
        (Schema.convert_eq_ok.2 ⟨.boolean, rfl, rfl⟩)
    · exact survives_of_convert trivial hname (by decide) hspread (Schema.convert_eq_ok.2 ⟨.boolean, rfl, rfl⟩)
        (Schema.convert_eq_ok.2 ⟨.boolean, rfl, rfl⟩)

end Clause

/-! ## Filters read back -/

namespace Filter

/-- What the filter of a pattern selects when it is read back. -/
structure Survives (f read : Filter) : Prop where
  proper : f.IsProper ∧ read.IsProper
  suits : f.Suits Schema.triples ∧ read.Suits Schema.triples
  same : '\t' ∉ joinChars f → ∀ d, read.holds Schema.triples d = f.holds Schema.triples d
  apart : '\t' ∈ joinChars f → ∀ d, ¬(read.holds Schema.triples d = true ∧ f.holds Schema.triples d = true)

theorem survives {f read : Filter} (hf : ∀ c ∈ f, c.IsCompiled) (h : List.Forall₂ Clause.ReadBack f read) :
    f.Survives read := by
  -- clause by clause; one clause with a tab is enough for a document not to hold both
  induction h with
  | nil => exact ⟨⟨nofun, nofun⟩, ⟨nofun, nofun⟩, fun _ _ => rfl, fun htab => absurd htab List.not_mem_nil⟩
  | @cons clause read f reads hread _ ih =>
    obtain ⟨hclause, hrest⟩ := List.forall_mem_cons.1 hf
    have hfirst := hclause.survives hread
    have hmore := ih hrest
    have hholds : ∀ (c : Clause) (g : Filter) d, Filter.holds Schema.triples (c :: g) d =
        (c.holds Schema.triples d && Filter.holds Schema.triples g d) := fun c g d => List.all_cons
    have htabs : '\t' ∈ joinChars (clause :: f) ↔ '\t' ∈ clause.chars ∨ '\t' ∈ joinChars f := by
      rw [tab_mem_joinChars, tab_mem_joinChars, List.exists_mem_cons_iff]
    refine ⟨⟨?_, ?_⟩, ⟨?_, ?_⟩, fun htab d => ?_, fun htab d => ?_⟩
    · exact List.forall_mem_cons.2 ⟨hfirst.proper.1, hmore.proper.1⟩
    · exact List.forall_mem_cons.2 ⟨hfirst.proper.2, hmore.proper.2⟩
    · exact List.forall_mem_cons.2 ⟨hfirst.suits.1, hmore.suits.1⟩
    · exact List.forall_mem_cons.2 ⟨hfirst.suits.2, hmore.suits.2⟩
    · rw [htabs, not_or] at htab
      rw [hholds, hholds, hfirst.same htab.1, hmore.same htab.2]
    · simp only [hholds, Bool.and_eq_true]
      rintro ⟨⟨hread, hreads⟩, hclause, hf⟩
      rcases htabs.1 htab with htab | htab
      · exact hfirst.apart htab d ⟨hread, hclause⟩
      · exact hmore.apart htab d ⟨hreads, hf⟩

end Filter

end TripleIndex
