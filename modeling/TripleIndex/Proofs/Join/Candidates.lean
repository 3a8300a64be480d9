import TripleIndex.Proofs.Join.Rows
import TripleIndex.Proofs.Reachable

/-!
Candidates are documents. Every query of a pattern ends with the clause for its graph, whose field is
always in step unless it holds floating point numbers, and no name of a graph writes one. The
identifiers of documents are of one kind, so they can be listed in order.
-/

namespace TripleIndex

/-! ## Kinds of identifiers -/

/-- Whether a place is that of a text or of a number. Null is neither. -/
def Place.isText? : Place → Option Bool
  | text _ | codePoints _ => some true
  | finite _ | infinite _ | nan _ => some false
  | null => none

theorem comparable_of_isText? {a b : Scalar} {kind : Bool} (ha : a.place.isText? = some kind)
    (hb : b.place.isText? = some kind) : a.comparable b = true := by
  have hkind : ∀ v : Scalar, ∀ kind, v.place.isText? = some kind → ∃ o, v.ordered? = some o ∧ o.isText = kind := by
    intro v kind hv
    cases v with
    | float x => cases x <;> cases hv <;> exact ⟨_, rfl, rfl⟩
    | null => cases hv
    | _ => cases hv; exact ⟨_, rfl, rfl⟩
  obtain ⟨x, hx, hxkind⟩ := hkind a kind ha
  obtain ⟨y, hy, hykind⟩ := hkind b kind hb
  simp [Scalar.comparable, hx, hy, hxkind, hykind]

def FieldType.isText (t : FieldType) : Bool := t = .text

theorem FieldType.isText?_of_convert {t : FieldType} {v w : Scalar} (h : t.convert v = .ok w) :
    w.place.isText? = some t.isText := by
  cases t with
  | text => rcases convert_text_eq_ok h with ⟨ns, -, rfl⟩ | ⟨s, -, rfl⟩ <;> rfl
  | integer =>
    obtain ⟨n, -, rfl⟩ := map_eq_ok.1 h
    rfl
  | double =>
    obtain ⟨x, -, rfl⟩ := map_eq_ok.1 h
    cases x <;> rfl
  | boolean =>
    obtain ⟨b, -, rfl⟩ := map_eq_ok.1 h
    rfl

namespace Index

variable {ix : Index} {schema : Schema}

theorem isText?_newId {d stored : Document} (hset : ((d.lookup Field.id).getD .null).isSet = true)
    (hstored : convertAll schema d = .ok stored) : ∃ t, schema.type? Field.id = some t ∧
      (ix.newId ((stored.lookup Field.id).getD .null)).place.isText? = some t.isText := by
  obtain ⟨hnames, hvalues⟩ := convertAll_eq_ok hstored
  have hsome : ∃ w, stored.lookup Field.id = some w := by
    cases hlookup : stored.lookup Field.id with
    | some w => exact ⟨w, rfl⟩
    | none =>
      rw [Table.lookup_eq_none_iff_not_mem, hnames, ← Table.lookup_eq_none_iff_not_mem] at hlookup
      rw [hlookup] at hset
      cases hset
  obtain ⟨w, hw⟩ := hsome
  obtain ⟨v, -, hconvert⟩ := hvalues _ (Table.mem_of_lookup hw)
  obtain ⟨t, ht, hconvert⟩ := Schema.convert_eq_ok.1 hconvert
  refine ⟨t, ht, ?_⟩
  rw [hw, Option.getD_some, newId]
  split
  · next hnan =>
    have hdouble : t = .double := by
      by_contra hne
      rw [FieldType.isNan_of_convert hconvert hne] at hnan
      cases hnan
    subst hdouble
    rfl
  · exact FieldType.isText?_of_convert hconvert

theorem write_isSet {after : Index} {d : Document} (h : ix.write d = .ok after) :
    ((d.lookup Field.id).getD .null).isSet = true := by
  unfold write at h
  split at h
  · cases h
  · next hset => simpa using hset

theorem mem_of_mem_documents_delete {f : Filter} {e : Place × Filed} (h : e ∈ (ix.delete f).1.documents) :
    e ∈ ix.documents := by
  have hremoved : ∀ ids, ∀ e ∈ (ix.removeAll ids).1.documents, e ∈ ix.documents := by
    refine removeAll_induction (P := fun after => ∀ e ∈ after.documents, e ∈ ix.documents)
      (fun e he => he) fun after id filed hafter _ e he => ?_
    rw [documents_discard, Table.without_eq_filter] at he
    exact hafter e (List.mem_of_mem_filter he)
  unfold Index.delete at h
  split at h
  · exact h
  · next selected _ =>
    split at h
    · next after heq => exact hremoved selected.toList e (heq ▸ h)
    · next after _ heq => exact hremoved selected.toList e (heq ▸ h)

theorem Reachable.isText?_place (h : Reachable schema ix) {e : Place × Filed} (he : e ∈ ix.documents) :
    ∃ t, schema.type? Field.id = some t ∧ e.1.isText? = some t.isText := by
  induction h with
  | empty => cases he
  | delete h f ih => exact ih (mem_of_mem_documents_delete he)
  | write h hd hwrite ih =>
    obtain ⟨stored, hstored, rfl⟩ := write_eq_ok hwrite
    obtain ⟨first, hdocuments, -⟩ := documents_put ..
    rw [h.maintained.schema_eq] at hstored
    rw [hdocuments, Table.put, Table.without_eq_filter] at he
    rcases List.mem_cons.1 he with rfl | he
    · exact isText?_newId (write_isSet hwrite) hstored
    · exact ih (List.mem_of_mem_filter he)

theorem checkOrder_eq_ok {ids : IdSet} (kind : Bool) (h : ∀ q ∈ ids, q.isText? = some kind) :
    Reader.checkOrder ids = .ok () := by
  have hnone : (ids.toList.zip (ids.toList.drop 1)).find? (fun pair => !pair.1.comparable pair.2) = none := by
    rw [List.find?_eq_none]
    rintro ⟨a, b⟩ hab
    obtain ⟨ha, hb⟩ := List.of_mem_zip hab
    have hplace : ∀ a ∈ ids.toList, a.place.isText? = some kind := fun a ha =>
      h a.place (List.mem_map_of_mem ha)
    simp [comparable_of_isText? (hplace a ha) (hplace b (List.mem_of_mem_drop hb))]
  rw [Reader.checkOrder]
  simp only [hnone]

theorem Reachable.checkOrder (h : Reachable schema ix) {ids : IdSet}
    (hids : ∀ q ∈ ids, ∃ d, ix.at? q = some d) : Reader.checkOrder ids = .ok () := by
  have hstored : ∀ q ∈ ids, ∃ t, schema.type? Field.id = some t ∧ q.isText? = some t.isText := by
    intro q hq
    obtain ⟨d, hd⟩ := hids q hq
    obtain ⟨e, he, rfl, -⟩ := h.maintained.sound.at?_eq_some.1 hd
    exact h.isText?_place he
  cases htype : schema.type? Field.id with
  | none =>
    refine checkOrder_eq_ok true fun q hq => ?_
    obtain ⟨t, ht, -⟩ := hstored q hq
    cases htype.symm.trans ht
  | some t =>
    refine checkOrder_eq_ok t.isText fun q hq => ?_
    obtain ⟨t', ht', hq⟩ := hstored q hq
    cases htype.symm.trans ht'
    exact hq

end Index

/-! ## Names of graphs are no numbers -/

theorem readDouble?_eq_none {s : String} {c : Char} {cs : List Char} (hs : s.toList = c :: cs)
    (hblank : isBlankAroundNumber c = false) (hdigit : digit? c = none) (hlower : c.toLower = c)
    (hc : c ∉ ['+', '-', '.', 'i', 'n']) : readDouble? s = none := by
  have htrim : ∃ rest, trimNumber s.toList = c :: rest := by
    rw [hs, trimNumber, trimWhere, List.dropWhile_cons_of_neg (by simp [hblank])]
    exact ⟨trimEndWhere isBlankAroundNumber cs, by simp [trimEndWhere, hblank]⟩
  obtain ⟨rest, htrim⟩ := htrim
  simp only [List.mem_cons, List.not_mem_nil, or_false, not_or] at hc
  obtain ⟨hplus, hminus, hpoint, hi, hn⟩ := hc
  have hsign : readSign (c :: rest) = (false, c :: rest) := by
    unfold readSign
    split
    · next h => exact absurd (List.cons.inj h).1 hminus
    · next h => exact absurd (List.cons.inj h).1 hplus
    · rfl
  have hrun : digitRun false (c :: rest) = ([], c :: rest) := by simp [digitRun, hdigit]
  have hfraction : readFraction (c :: rest) = ([], c :: rest) := by
    unfold readFraction
    split
    · next h => exact absurd (List.cons.inj h).1 hpoint
    · rfl
  have hmagnitude : readMagnitude? false (c :: rest) = none := by
    simp [readMagnitude?, hrun, hfraction]
  simp [readDouble?, htrim, hsign, lowerAscii, hlower, hi, hn, hmagnitude]

theorem graphForm_head {graph : Option Term} {context : String} (h : graphForm graph = .ok context) :
    ∃ cs, context.toList = '<' :: cs ∨ context.toList = '_' :: cs := by
  have hiri : ∀ value, (Term.iri value).form = .ok context → ∃ cs, context.toList = '<' :: cs := by
    intro value h
    have hform : (Term.iri value).form =
        if isLegalIri value.toList then .ok ("<" ++ value ++ ">") else .error (.illegalIri value) := rfl
    rw [hform] at h
    split at h
    · cases h
      exact ⟨value.toList ++ ['>'], by simp [String.toList_append]⟩
    · cases h
  unfold graphForm at h
  split at h
  · obtain ⟨cs, hcs⟩ := hiri _ h
    exact ⟨cs, .inl hcs⟩
  · obtain ⟨cs, hcs⟩ := hiri _ h
    exact ⟨cs, .inl hcs⟩
  · next v =>
    have hform : (Term.iriOfValue v).form = Term.formOfIri v := rfl
    rw [hform] at h
    unfold Term.formOfIri at h
    split at h
    · split at h
      · unfold encodable at h
        split at h
        · cases h
        · cases h
          exact ⟨_, .inl String.toList_ofList⟩
      · cases h
    · cases h
  · next label =>
    cases h
    exact ⟨':' :: label.toList, .inr (by simp [String.toList_append])⟩
  · cases h

theorem readDouble?_graphForm {graph : Option Term} {context : String}
    (h : graphForm graph = .ok context) : readDouble? context = none := by
  obtain ⟨cs, hcs | hcs⟩ := graphForm_head h
  · exact readDouble?_eq_none hcs (by decide) (by decide) (by decide) (by decide)
  · exact readDouble?_eq_none hcs (by decide) (by decide) (by decide) (by decide)

/-! ## Candidates -/

namespace Index

variable {ix : Index} {schema : Schema}

theorem mem_select_of_mem_narrow {f : Filter} {selected : Option IdSet} {s : IdSet} {q : Place}
    (h : ix.narrow f selected = .ok (some s)) (hq : q ∈ s) :
    (∀ t ∈ selected, q ∈ t) ∧ ∀ c ∈ f, ∃ matching, ix.select c = .ok matching ∧ q ∈ matching := by
  -- each clause takes away from the selection and adds nothing to it
  induction f generalizing selected with
  | nil =>
    cases h
    simpa using hq
  | cons c cs ih =>
    rw [narrow] at h
    split at h
    · next hempty =>
      cases h
      cases hempty
      exact absurd hq (IdSet.not_mem_empty q)
    · obtain ⟨matching, hmatching, h⟩ := bind_eq_ok.1 h
      obtain ⟨hselected, hrest⟩ := ih h
      have hboth := hselected _ rfl
      cases selected with
      | none =>
        refine ⟨by simp, List.forall_mem_cons.2 ⟨⟨matching, hmatching, hboth⟩, hrest⟩⟩
      | some t =>
        obtain ⟨ht, hmem⟩ := (IdSet.mem_inter q t matching).1 hboth
        exact ⟨by simpa using ht, List.forall_mem_cons.2 ⟨⟨matching, hmatching, hmem⟩, hrest⟩⟩

theorem exists_of_narrow_some {f : Filter} {t : IdSet} {result : Option IdSet}
    (h : ix.narrow f (some t) = .ok result) : ∃ s, result = some s := by
  induction f generalizing t with
  | nil =>
    cases h
    exact ⟨t, rfl⟩
  | cons c f ih =>
    rw [narrow] at h
    split at h
    · cases h
      exact ⟨t, rfl⟩
    · obtain ⟨matching, -, h⟩ := bind_eq_ok.1 h
      exact ih h

theorem mem_select_of_mem_evaluate {f : Filter} {ids : IdSet} {q : Place} {c : Clause}
    (h : ix.evaluate f none = .ok ids) (hq : q ∈ ids) (hc : c ∈ f) :
    ∃ matching, ix.select c = .ok matching ∧ q ∈ matching := by
  obtain ⟨selected, hselected, h⟩ := bind_eq_ok.1 h
  have hbegun : ∃ s, selected = some s := by
    cases f with
    | nil => cases hc
    | cons d f =>
      rw [narrow, if_neg (by simp)] at hselected
      obtain ⟨matching, -, hselected⟩ := bind_eq_ok.1 hselected
      exact exists_of_narrow_some hselected
  obtain ⟨s, rfl⟩ := hbegun
  cases h
  exact (mem_select_of_mem_narrow hselected hq).2 c hc

theorem Reachable.stored_of_mem_select (h : Reachable schema ix) {graph : Option Term} {context : String}
    (hcontext : graphForm graph = .ok context) {s : IdSet}
    (hs : ix.select (.term Field.context (.text context)) = .ok s) {q : Place} (hq : q ∈ s) :
    ∃ d, ix.at? q = some d := by
  have hmaintained := h.maintained
  have hconvert : ∃ v, ix.schema.convert Field.context (.text context) = .ok v := by
    unfold Index.select at hs
    split at hs
    · cases hs
    · obtain ⟨v, hv, -⟩ := bind_eq_ok.1 hs
      exact ⟨v, hv⟩
  obtain ⟨v, hv⟩ := hconvert
  obtain ⟨t, ht, hconvert⟩ := Schema.convert_eq_ok.1 hv
  have hdouble : t ≠ .double := by
    rintro rfl
    obtain ⟨x, hx, -⟩ := map_eq_ok.1 hconvert
    have hnone : doubleOf context = .error (.notANumber context) := by
      rw [doubleOf, readDouble?_graphForm hcontext]
    cases hnone.symm.trans hx
  have hstep : ix.InStep Field.context := hmaintained.inStep (hmaintained.schema_eq ▸ ht) hdouble
  have hproper : (Clause.term Field.context (.text context)).IsProper := trivial
  obtain ⟨d, hd, -⟩ := (hstep.scans hproper s hs q).1 hq
  exact ⟨d, hd⟩

theorem context_mem_of_patternClauses {registry : Registry} {p : Pattern} {graph : Option Term} {f : Filter}
    (h : patternClauses registry p graph = .ok f) :
    ∃ context, graphForm graph = .ok context ∧ .term Field.context (.text context) ∈ f := by
  obtain ⟨subject, -, h⟩ := bind_eq_ok.1 h
  obtain ⟨predicate, -, h⟩ := bind_eq_ok.1 h
  obtain ⟨object, -, h⟩ := bind_eq_ok.1 h
  obtain ⟨context, hcontext, h⟩ := bind_eq_ok.1 h
  cases h
  exact ⟨context, hcontext, by simp⟩

theorem patternClauses_of_compile {registry : Registry} {p : Pattern} {graph : Option Term} {f : Filter}
    (h : compile registry p graph = .ok f) : patternClauses registry p graph = .ok f := by
  unfold compile at h
  split at h
  · next f' hf =>
    cases h
    exact hf
  · split at h <;> cases h

theorem Reachable.stored_of_mem_evaluate (h : Reachable schema ix) {registry : Registry} {p : Pattern}
    {graph : Option Term} {f : Filter} (hf : compile registry p graph = .ok f) {ids : IdSet}
    (hids : ix.evaluate f none = .ok ids) {q : Place} (hq : q ∈ ids) : ∃ d, ix.at? q = some d := by
  obtain ⟨context, hcontext, hmem⟩ := context_mem_of_patternClauses (patternClauses_of_compile hf)
  obtain ⟨s, hs, hq⟩ := mem_select_of_mem_evaluate hids hq hmem
  exact h.stored_of_mem_select hcontext hs hq

theorem Reachable.stored_of_mem_candidateSet (h : Reachable schema ix) {registry : Registry}
    {pg : Pattern × Term} {q : Place} (hq : q ∈ candidateSet registry ix pg) : ∃ d, ix.at? q = some d := by
  unfold candidateSet at hq
  split at hq
  · exact absurd hq (IdSet.not_mem_empty q)
  · next f hf =>
    split at hq
    · exact absurd hq (IdSet.not_mem_empty q)
    · next ids hids => exact h.stored_of_mem_evaluate hf hids hq

end Index

end TripleIndex
