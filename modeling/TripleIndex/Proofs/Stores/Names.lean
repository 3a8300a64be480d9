import TripleIndex.Proofs.Stores.Forms
import TripleIndex.Proofs.Stores.Invariant

/-!
The names that identifiers are made of. The name of a quadruple is its four canonical forms written one
after the other, with nothing between them. It can be taken apart if the first three forms tell where they
end, and two names of this kind are the same only if all four forms are. A literal of many lines and a label
in which a form begins do not tell where they end.
-/

namespace TripleIndex

/-! ## Quadruples -/

/-- The canonical forms of a triple and its graph. -/
structure Quadruple where
  context : String
  subject : String
  predicate : String
  object : String
  deriving DecidableEq, Repr

namespace Quadruple

def name (q : Quadruple) : String := documentName q.context q.subject q.predicate q.object

/-- What is hashed for the identifier. -/
def bytes (q : Quadruple) : ByteArray := q.name.toUTF8

def id (q : Quadruple) : DocId := .text (documentId q.context q.subject q.predicate q.object)

/-- A quadruple of forms whose name can be taken apart. -/
structure IsDelimited (q : Quadruple) : Prop where
  context : SelfDelimiting q.context.toList
  subject : SelfDelimiting q.subject.toList
  predicate : SelfDelimiting q.predicate.toList
  object : beginsForm q.object.toList = true

theorem name_inj {q q' : Quadruple} (hq : q.IsDelimited) (hq' : q'.IsDelimited) (h : q.name = q'.name) :
    q = q' := by
  have hchars : ∀ q : Quadruple, q.name.toList =
      q.context.toList ++ (q.subject.toList ++ (q.predicate.toList ++ q.object.toList)) := by
    intro q
    simp only [name, documentName, String.toList_append, List.append_assoc]
  have h : q.name.toList = q'.name.toList := congrArg String.toList h
  rw [hchars, hchars] at h
  obtain ⟨hcontext, h⟩ := hq.context.append_inj hq'.context (hq.subject.beginsForm_append _)
    (hq'.subject.beginsForm_append _) h
  obtain ⟨hsubject, h⟩ := hq.subject.append_inj hq'.subject (hq.predicate.beginsForm_append _)
    (hq'.predicate.beginsForm_append _) h
  obtain ⟨hpredicate, hobject⟩ := hq.predicate.append_inj hq'.predicate hq.object hq'.object h
  cases q
  cases q'
  simp only [String.toList_inj] at hcontext hsubject hpredicate hobject
  rw [hcontext, hsubject, hpredicate, hobject]

-- literals of many lines may begin with quotes, which then pass for an empty literal before them
example :
    let name (subject predicate object : String) : Option String := do
      return documentName "_:g" (← (Literal.ofText subject).form.toOption)
        (← (Literal.ofText predicate).form.toOption) (← (Literal.ofText object).form.toOption)
    (name "" "a\nb" "\"\"c\nd").isSome = true ∧
      name "" "a\nb" "\"\"c\nd" = name "\"\"a\nb" "" "c\nd" := by decide

end Quadruple

/-- The canonical forms that a document has in its slots. -/
def Document.quadruple (d : Document) : Quadruple :=
  let form (field : String) : String := ((d.lookup field).getD .null).plain
  ⟨form Field.context, form Field.subject, form Field.predicate, form Field.object⟩

section Documents

variable {registry : Registry} {triple : Pattern} {graph : Term} {d : Document}

theorem Document.Describes.quadruple_eq {context subject predicate object : String}
    (h : d.Describes registry context subject predicate object) :
    d.quadruple = ⟨context, subject, predicate, object⟩ := by
  obtain ⟨⟨hcontext, hsubject, hpredicate, hobject⟩, -⟩ := h
  simp only [Document.quadruple, hcontext, hsubject, hpredicate, hobject, Option.getD_some]
  rfl

theorem lookup_id_document (h : document registry triple (some graph) = .ok d) :
    d.lookup Field.id = some d.quadruple.id := by
  obtain ⟨context, subject, predicate, object, hdescribes⟩ := describes_document h
  rw [hdescribes.quadruple_eq, hdescribes.id]
  rfl

theorem form_of_objectFields {t : Term} {fields : Document} (h : objectFields registry t = .ok fields) :
    t.form = .ok (objectForm fields) := by
  unfold objectFields at h
  split at h
  · obtain ⟨encoded, hencoded, h⟩ := bind_eq_ok.1 h
    cases h
    obtain ⟨form, hform, rfl | ⟨value, -, rfl⟩⟩ := encode_eq_ok hencoded
    · exact hform
    · exact hform
  · obtain ⟨form, hform, h⟩ := bind_eq_ok.1 h
    cases h
    exact hform

theorem forms_of_document (h : document registry triple (some graph) = .ok d) :
    graphForm (some graph) = .ok d.quadruple.context ∧ triple.subject.form = .ok d.quadruple.subject ∧
      triple.predicate.form = .ok d.quadruple.predicate ∧ triple.object.form = .ok d.quadruple.object := by
  unfold document at h
  split at h
  · cases h
  obtain ⟨context, hcontext, h⟩ := bind_eq_ok.1 h
  obtain ⟨subject, hsubject, h⟩ := bind_eq_ok.1 h
  obtain ⟨predicate, hpredicate, h⟩ := bind_eq_ok.1 h
  obtain ⟨fields, hfields, h⟩ := bind_eq_ok.1 h
  cases h
  have hform := form_of_objectFields hfields
  exact ⟨hcontext, hsubject, hpredicate, hform⟩

theorem selfDelimiting_graphForm {form : String} (hgraph : graph.isDelimited = true)
    (h : graphForm (some graph) = .ok form) : SelfDelimiting form.toList := by
  cases graph with
  | bare s => exact Term.selfDelimiting_form (t := .iri s) rfl h
  | var name => cases h
  | literal l => cases h
  | _ => exact Term.selfDelimiting_form hgraph h

/-- A triple in a graph whose forms tell where they end, the object apart. -/
def Pattern.isDelimitedIn (triple : Pattern) (graph : Term) : Bool :=
  graph.isDelimited && triple.subject.isDelimited && triple.predicate.isDelimited

theorem isDelimited_quadruple (hnames : triple.isDelimitedIn graph = true)
    (h : document registry triple (some graph) = .ok d) : d.quadruple.IsDelimited := by
  obtain ⟨hcontext, hsubject, hpredicate, hobject⟩ := forms_of_document h
  simp only [Pattern.isDelimitedIn, Bool.and_eq_true] at hnames
  refine ⟨selfDelimiting_graphForm hnames.1.1 hcontext, Term.selfDelimiting_form hnames.1.2 hsubject,
    Term.selfDelimiting_form hnames.2 hpredicate, ?_⟩
  simpa using Term.beginsForm_form hobject []

end Documents

/-! ## Insertions -/

theorem Index.at?_write {ix after : Index} {registry : Registry} {triple : Pattern} {graph : Term} {d : Document}
    (hschema : ix.schema = Schema.triples) (hd : document registry triple (some graph) = .ok d)
    (h : ix.write d = .ok after) : after.at? = Function.update ix.at? d.quadruple.id.place (some d) := by
  obtain ⟨stored, hstored, rfl⟩ := write_eq_ok h
  rw [hschema, (isCompiled_document hd).convertAll_eq] at hstored
  cases hstored
  rw [at?_put, lookup_id_document hd]
  rfl

theorem Store.at?_insert {registry : Registry} {s after : Store} {triple : Pattern} {g : Option Term}
    (hs : Reachable registry s) (h : s.insert triple g = .ok after) :
    ∃ d, document registry triple (some (s.graph g)) = .ok d ∧
      after.index.at? = Function.update s.index.at? d.quadruple.id.place (some d) := by
  have hmaintained := hs.maintained
  obtain ⟨d, ix, hd, hwrite, rfl⟩ := insert_eq_ok h
  rw [hmaintained.registry_eq] at hd
  exact ⟨d, hd, Index.at?_write hmaintained.index.schema_eq hd hwrite⟩

/-- Triples of different forms have different names, so an insertion leaves the documents of other triples
alone if their names have different identifiers. -/
theorem insert_keeps_other {registry : Registry} {first second : Pattern} {g g' : Term} {d d' : Document}
    (hfirst : first.isDelimitedIn g = true) (hsecond : second.isDelimitedIn g' = true)
    (hd : document registry first (some g) = .ok d) (hd' : document registry second (some g') = .ok d')
    (hne : d.quadruple ≠ d'.quadruple) :
    d.quadruple.bytes ≠ d'.quadruple.bytes ∧
      ((d.quadruple.bytes ≠ d'.quadruple.bytes → d.quadruple.id ≠ d'.quadruple.id) →
        ∀ s after, Store.Reachable registry s → s.insert second (some g') = .ok after →
          after.index.at? d.quadruple.id.place = s.index.at? d.quadruple.id.place) := by
  have hbytes : d.quadruple.bytes ≠ d'.quadruple.bytes := by
    intro heq
    exact hne (Quadruple.name_inj (isDelimited_quadruple hfirst hd) (isDelimited_quadruple hsecond hd')
      (String.toByteArray_inj.1 heq))
  refine ⟨hbytes, fun hdistinct s after hs hinsert => ?_⟩
  have hplace : d.quadruple.id.place ≠ d'.quadruple.id.place := by
    intro heq
    exact hdistinct hbytes (congrArg Scalar.text (Scalar.place_text_inj.1 heq))
  obtain ⟨stored, hstored, hat⟩ := Store.at?_insert hs hinsert
  cases hd'.symm.trans hstored
  rw [hat, Function.update_of_ne hplace]

/-- A label that ends in an underscore, and one that begins with a colon. -/
theorem insert_keeps_other_labels :
    let first : Pattern := ⟨.blank "a_", .iri "urn:p", .blank ":b"⟩
    let second : Pattern := ⟨.blank "a", .iri "urn:p", .blank ":b"⟩
    let g : Term := .blank "g"
    first.isDelimitedIn g = true ∧ second.isDelimitedIn g = true ∧
    ∃ d d', document .default first (some g) = .ok d ∧ document .default second (some g) = .ok d' ∧
      d.quadruple ≠ d'.quadruple ∧ d.quadruple.bytes ≠ d'.quadruple.bytes ∧
      ((d.quadruple.bytes ≠ d'.quadruple.bytes → d.quadruple.id ≠ d'.quadruple.id) →
        ∀ s after, Store.Reachable .default s → s.insert second (some g) = .ok after →
          after.index.at? d.quadruple.id.place = s.index.at? d.quadruple.id.place) := by
  intro first second g
  have hfirst : first.isDelimitedIn g = true := by decide
  have hsecond : second.isDelimitedIn g = true := by decide
  obtain ⟨d, hd⟩ : ∃ d, document .default first (some g) = .ok d := ⟨_, rfl⟩
  obtain ⟨d', hd'⟩ : ∃ d, document .default second (some g) = .ok d := ⟨_, rfl⟩
  have hne : d.quadruple ≠ d'.quadruple := by
    intro heq
    have hsubject := (forms_of_document hd).2.1
    rw [heq, ← (forms_of_document hd').2.1] at hsubject
    exact absurd (Except.ok.inj hsubject) (by decide)
  exact ⟨hfirst, hsecond, d, d', hd, hd', hne, insert_keeps_other hfirst hsecond hd hd' hne⟩

/-- Where a form begins inside of a label, the second of two triples takes the place of the first. -/
theorem insert_loses_other :
    let first : Pattern := ⟨.blank "a_:b", .iri "urn:p", .iri "urn:o"⟩
    let second : Pattern := ⟨.blank "b", .iri "urn:p", .iri "urn:o"⟩
    ∃ s d d', Store.make .default .default = .ok s ∧ document .default first (some (.blank "g")) = .ok d ∧
      document .default second (some (.blank "g_:a")) = .ok d' ∧ d.quadruple ≠ d'.quadruple ∧
      d.quadruple.bytes = d'.quadruple.bytes ∧
      (s.callAll [.insert first (some (.blank "g"))]).size = 1 ∧
      (s.callAll [.insert first (some (.blank "g")), .insert second (some (.blank "g_:a"))]).size = 1 := by
  intro first second
  have hrun : ((Store.make .default .default).toOption.any fun s =>
      (document .default first (some (.blank "g"))).toOption.any fun d =>
      (document .default second (some (.blank "g_:a"))).toOption.any fun d' =>
        decide (d.quadruple ≠ d'.quadruple ∧ d.quadruple.name = d'.quadruple.name ∧
          (s.callAll [.insert first (some (.blank "g"))]).size = 1 ∧
          (s.callAll [.insert first (some (.blank "g")), .insert second (some (.blank "g_:a"))]).size = 1)) =
      true := by decide +kernel
  simp only [Option.any_eq_true, toOption_eq_some, decide_eq_true_eq] at hrun
  obtain ⟨s, hs, d, hd, d', hd', hne, hname, hone, hlost⟩ := hrun
  exact ⟨s, d, d', hs, hd, hd', hne, congrArg String.toUTF8 hname, hone, hlost⟩

end TripleIndex
