import TripleIndex.Proofs.Deletions.Correctness
import TripleIndex.Proofs.Join.Candidates
import TripleIndex.Reader

/-!
Queries that are rejected. A clause is looked at only while the clauses before it have left something, so a field
that is not there or a value that does not suit its field is reported just if the evaluation comes to it. A query
that begins with such a clause is rejected whatever the documents are, and one without any is never rejected.
-/

namespace TripleIndex

def Rejects {α : Type} (outcome : Except Fault α) : Prop := ∃ e, outcome = .error e ∧ e.isValueFault = true

@[simp] theorem rejects_error {α : Type} {e : Fault} :
    Rejects (.error e : Except Fault α) ↔ e.isValueFault = true := by
  simp [Rejects]

@[simp] theorem not_rejects_ok {α : Type} (a : α) : ¬ Rejects (.ok a) := by
  simp [Rejects]

/-- The first step without a result decides with which fault a list of them ends. -/
theorem mapM_eq_error_iff {α β ε : Type} {f : α → Except ε β} {xs : List α} {e : ε} :
    xs.mapM f = .error e ↔
      ∃ front x back, xs = front ++ x :: back ∧ (∀ a ∈ front, ∃ b, f a = .ok b) ∧ f x = .error e := by
  induction xs with
  | nil =>
    refine iff_of_false nofun ?_
    rintro ⟨front, x, back, h, -⟩
    simp at h
  | cons x xs ih =>
    rw [List.mapM_cons, bind_eq_error]
    constructor
    · rintro (hx | ⟨b, hb, h⟩)
      · exact ⟨[], x, xs, rfl, by simp, hx⟩
      · rcases bind_eq_error.1 h with h | ⟨_, -, h⟩
        · obtain ⟨front, y, back, rfl, hfront, hy⟩ := ih.1 h
          exact ⟨x :: front, y, back, rfl, List.forall_mem_cons.2 ⟨⟨b, hb⟩, hfront⟩, hy⟩
        · cases h
    · rintro ⟨front, y, back, h, hfront, hy⟩
      cases front with
      | nil =>
        cases h
        exact .inl hy
      | cons a front =>
        cases h
        obtain ⟨⟨b, hb⟩, hfront⟩ := List.forall_mem_cons.1 hfront
        exact .inr ⟨b, hb, bind_eq_error.2 (.inl (ih.2 ⟨front, y, back, rfl, hfront, hy⟩))⟩

theorem mapM_singleton {α β ε : Type} (f : α → Except ε β) (x : α) : [x].mapM f = (f x).map ([·]) := by
  rw [List.mapM_cons]
  cases f x <;> rfl

theorem mapM_eq_map_head? {α β ε : Type} (f : α → Except ε β) (bound : Option α) :
    bound.mapM f = (bound.toList.mapM f).map List.head? := by
  cases bound with
  | none => rfl
  | some x =>
    rw [Option.toList_some, mapM_singleton]
    show (f x).map some = _
    cases f x <;> rfl

/-! ## Clauses -/

namespace Clause

/-- The values that a clause asks for, in the order in which they are converted. -/
def values : Clause → List Scalar
  | term _ value => [value]
  | range _ lower upper => lower.toList ++ upper.toList

/-- A clause that cannot be looked up: no field has its name, or one of its values does not suit the type of the
field, while those before it do. -/
def IsRefused (schema : Schema) (c : Clause) : Prop :=
  match schema.type? c.field with
  | none => True
  | some t => ∃ front v back, c.values = front ++ v :: back ∧ (∀ a ∈ front, ∃ b, t.convert a = .ok b) ∧
      ∃ cause, t.convert v = .error cause ∧ cause.IsPlain

end Clause

theorem Fault.isValueFault_reported {f : Fault} (h : f.isValueFault = true) : f.reported.isValueFault = true := by
  unfold reported
  split
  · exact h
  · rfl

theorem Schema.rejects_convert {schema : Schema} {name : String} {t : FieldType} (ht : schema.type? name = some t)
    (v : Scalar) : Rejects (schema.convert name v) ↔ ∃ cause, t.convert v = .error cause ∧ cause.IsPlain := by
  unfold convert
  rw [ht]
  dsimp only
  cases t.convert v with
  | ok w => exact iff_of_false (not_rejects_ok w) (by simp)
  | error cause =>
    dsimp only
    by_cases hplain : (cause.isValueFault || cause.isTypeFault) = true
    · rw [if_pos hplain, rejects_error]
      exact iff_of_true (Fault.isValueFault_reported rfl) ⟨cause, rfl, hplain⟩
    · rw [if_neg hplain, rejects_error]
      refine iff_of_false (fun hvalue => hplain (by rw [hvalue, Bool.true_or])) ?_
      rintro ⟨e, ⟨⟩, hplain'⟩
      exact hplain hplain'

namespace Index

variable {ix : Index} {c : Clause}

theorem select_eq_error {p : Postings Scalar} (hp : ix.postings? c.field = some p) {e : Fault} :
    ix.select c = .error e ↔ c.values.mapM (ix.schema.convert c.field) = .error e := by
  rw [select, hp]
  cases c with
  | term field value =>
    show (ix.schema.convert field value >>= fun v => pure (p.lookup v)) = .error e ↔
      [value].mapM (ix.schema.convert field) = .error e
    rw [mapM_singleton]
    cases ix.schema.convert field value <;> simp [bind, Except.bind, Except.map, pure, Except.pure]
  | range field lower upper =>
    show (lower.mapM (ix.schema.convert field) >>= fun l => upper.mapM (ix.schema.convert field) >>= fun u =>
      pure (p.range l u)) = .error e ↔ (lower.toList ++ upper.toList).mapM (ix.schema.convert field) = .error e
    rw [List.mapM_append, mapM_eq_map_head? _ lower, mapM_eq_map_head? _ upper]
    cases lower.toList.mapM (ix.schema.convert field) with
    | error e' => simp [bind, Except.bind, Except.map]
    | ok l =>
      cases upper.toList.mapM (ix.schema.convert field) <;>
        simp [bind, Except.bind, Except.map, pure, Except.pure]

theorem rejects_select (hix : ∀ field, (ix.postings? field).isSome = (ix.schema.type? field).isSome) :
    Rejects (ix.select c) ↔ c.IsRefused ix.schema := by
  cases ht : ix.schema.type? c.field with
  | none =>
    have hnone : ix.postings? c.field = none := by simpa [ht] using hix c.field
    refine iff_of_true ⟨.unknownField c.field, by rw [select, hnone], rfl⟩ ?_
    rw [Clause.IsRefused, ht]
    trivial
  | some t =>
    obtain ⟨p, hp⟩ := Option.isSome_iff_exists.1 ((hix c.field).trans (congrArg Option.isSome ht))
    have htaken : ∀ v, (∃ w, ix.schema.convert c.field v = .ok w) ↔ ∃ w, t.convert v = .ok w := by
      simp [Schema.convert_eq_ok, ht]
    simp only [Rejects, select_eq_error hp, mapM_eq_error_iff, htaken]
    rw [Clause.IsRefused, ht]
    simp only [← Schema.rejects_convert ht]
    constructor
    · rintro ⟨e, ⟨front, v, back, hvalues, hfront, hv⟩, hvalue⟩
      exact ⟨front, v, back, hvalues, hfront, e, hv, hvalue⟩
    · rintro ⟨front, v, back, hvalues, hfront, e, hv, hvalue⟩
      exact ⟨e, ⟨front, v, back, hvalues, hfront, hv⟩, hvalue⟩

/-! ## Queries -/

/-- The evaluation of a query comes to a clause that is refused: the clauses before it, if there are any, have been
answered and select something. -/
def ComesToRefusal (ix : Index) (f : Filter) : Prop :=
  ∃ front c back, f = front ++ c :: back ∧ (front = [] ∨ ∃ s, ix.evaluate front none = .ok s ∧ s ≠ .empty) ∧
    c.IsRefused ix.schema

variable {f : Filter}

/-- A query that begins with a clause that is refused comes to it, whatever the documents are. -/
theorem comesToRefusal_cons (h : c.IsRefused ix.schema) (f : Filter) : ix.ComesToRefusal (c :: f) :=
  ⟨[], c, f, rfl, .inl rfl, h⟩

theorem ComesToRefusal.exists_isRefused (h : ix.ComesToRefusal f) : ∃ c ∈ f, c.IsRefused ix.schema := by
  obtain ⟨front, c, back, rfl, -, hc⟩ := h
  exact ⟨c, by simp, hc⟩

theorem narrow_empty (f : Filter) : ix.narrow f (some .empty) = .ok (some .empty) := by
  cases f with
  | nil => rfl
  | cons c f => rw [narrow, if_pos rfl]

/-- Narrowing is rejected with the first clause that is, if it comes to that clause. -/
theorem rejects_narrow {selected : Option IdSet} : Rejects (ix.narrow f selected) ↔
    ∃ front c back, f = front ++ c :: back ∧ (∃ reached, ix.narrow front selected = .ok reached ∧
      reached ≠ some .empty) ∧ Rejects (ix.select c) := by
  induction f generalizing selected with
  | nil =>
    refine iff_of_false (not_rejects_ok selected) ?_
    rintro ⟨front, c, back, h, -⟩
    simp at h
  | cons c f ih =>
    by_cases hempty : selected = some .empty
    · -- nothing is left, so no clause is looked at any more
      subst hempty
      refine iff_of_false (by rw [narrow_empty]; exact not_rejects_ok _) ?_
      rintro ⟨front, d, back, -, ⟨reached, hreached, hne⟩, -⟩
      rw [narrow_empty] at hreached
      exact hne (Except.ok.inj hreached).symm
    · rw [narrow, if_neg hempty]
      constructor
      · rintro ⟨e, he, hvalue⟩
        rcases bind_eq_error.1 he with hc | ⟨matching, hmatching, hrest⟩
        · exact ⟨[], c, f, rfl, ⟨selected, rfl, hempty⟩, e, hc, hvalue⟩
        · obtain ⟨front, d, back, rfl, ⟨reached, hreached, hne⟩, hd⟩ := ih.1 ⟨e, hrest, hvalue⟩
          refine ⟨c :: front, d, back, rfl, ⟨reached, ?_, hne⟩, hd⟩
          rw [narrow, if_neg hempty, hmatching, ok_bind, hreached]
      · rintro ⟨front, d, back, h, ⟨reached, hreached, hne⟩, hd⟩
        cases front with
        | nil =>
          cases h
          obtain ⟨e, he, hvalue⟩ := hd
          exact ⟨e, bind_eq_error.2 (.inl he), hvalue⟩
        | cons c' front =>
          cases h
          rw [narrow, if_neg hempty] at hreached
          obtain ⟨matching, hmatching, hreached⟩ := bind_eq_ok.1 hreached
          rw [hmatching, ok_bind]
          exact ih.2 ⟨front, d, back, rfl, ⟨reached, hreached, hne⟩, hd⟩

/-- What has been reached by some clauses is what they select on their own. -/
theorem narrow_reaches {front : Filter} : (∃ reached, ix.narrow front none = .ok reached ∧ reached ≠ some .empty) ↔
    front = [] ∨ ∃ s, ix.evaluate front none = .ok s ∧ s ≠ .empty := by
  cases front with
  | nil => exact iff_of_true ⟨none, rfl, nofun⟩ (.inl rfl)
  | cons c front =>
    constructor
    · rintro ⟨reached, hreached, hne⟩
      obtain ⟨s, rfl⟩ : ∃ s, reached = some s := by
        rw [narrow, if_neg nofun] at hreached
        obtain ⟨matching, -, hreached⟩ := bind_eq_ok.1 hreached
        exact exists_of_narrow_some hreached
      exact .inr ⟨s, bind_eq_ok.2 ⟨some s, hreached, rfl⟩, fun h => hne (congrArg some h)⟩
    · rintro (h | ⟨s, hs, hne⟩)
      · cases h
      · obtain ⟨reached, hreached, hs⟩ := bind_eq_ok.1 hs
        refine ⟨reached, hreached, ?_⟩
        rintro rfl
        cases hs
        exact hne rfl

theorem rejects_evaluate (hix : ∀ field, (ix.postings? field).isSome = (ix.schema.type? field).isSome)
    (f : Filter) (within : Option IdSet) : Rejects (ix.evaluate f within) ↔ ix.ComesToRefusal f := by
  have hnarrow : Rejects (ix.evaluate f within) ↔ Rejects (ix.narrow f none) := by
    unfold evaluate
    cases ix.narrow f none with
    | error e => exact rejects_error.trans rejects_error.symm
    | ok selected => exact iff_of_false (not_rejects_ok _) (not_rejects_ok _)
  simp only [hnarrow, rejects_narrow, narrow_reaches, rejects_select hix, ComesToRefusal]

theorem not_rejects_removeAll (ids : List DocId) (ix : Index) : ¬ Rejects (ix.removeAll ids).2 := by
  induction ids generalizing ix with
  | nil => exact not_rejects_ok ()
  | cons id ids ih =>
    rw [removeAll]
    split
    · simp [Fault.isValueFault, Fault.kind]
    · exact ih _

theorem rejects_delete (f : Filter) : Rejects (ix.delete f).2 ↔ Rejects (ix.evaluate f none) := by
  unfold delete
  split
  · next e heval => rw [heval, rejects_error, rejects_error]
  · next selected heval =>
    rw [heval]
    have hremoved := not_rejects_removeAll selected.toList ix
    split
    · exact iff_of_false (not_rejects_ok _) (not_rejects_ok _)
    · next after e hresult =>
      rw [hresult] at hremoved
      exact iff_of_false (fun h => hremoved (rejects_error.2 (rejects_error.1 h))) (not_rejects_ok _)

/-- A query is rejected just if its evaluation comes to a clause that is refused, by a reader and by the index, with
its text or without, and whatever set it is asked within. So it is rejected only if one of its clauses is refused,
and whatever the documents are if the first one is. -/
theorem rejects_iff {schema : Schema} (h : Reachable schema ix) (f : Filter) :
    (∀ within, Rejects ((Reader.opened ix).evaluate f within) ↔ ix.ComesToRefusal f) ∧
    (Rejects ((Reader.opened ix).count f) ↔ ix.ComesToRefusal f) ∧
    (Rejects (ix.delete f).2 ↔ ix.ComesToRefusal f) ∧
    (∀ text, Filter.ofText text = .ok f →
      (Rejects (ix.count text) ↔ ix.ComesToRefusal f) ∧ (Rejects (ix.deleteText text).2 ↔ ix.ComesToRefusal f)) ∧
    (ix.ComesToRefusal f → ∃ c ∈ f, c.IsRefused schema) ∧
    ∀ c rest, f = c :: rest → c.IsRefused schema → ix.ComesToRefusal f := by
  have hschema := h.maintained.schema_eq
  have hrejects := rejects_evaluate h.maintained.sound.isSome_postings? f
  have hcount : ∀ {x : Except Fault IdSet}, Rejects (do return (← x).size) ↔ Rejects x := by
    intro x
    cases x with
    | error e => exact rejects_error.trans rejects_error.symm
    | ok s => exact iff_of_false (not_rejects_ok _) (not_rejects_ok _)
  have hdelete := (rejects_delete f).trans (hrejects none)
  refine ⟨hrejects, hcount.trans (hrejects none), hdelete, fun text htext => ⟨?_, ?_⟩, ?_, ?_⟩
  · rw [count, htext, ok_bind]
    exact hcount.trans (hrejects none)
  · rw [deleteText, htext]
    exact hdelete
  · exact hschema ▸ ComesToRefusal.exists_isRefused
  · rintro c rest rfl hc
    exact comesToRefusal_cons (hschema.symm ▸ hc) rest

/-- A query of which the second clause has no field. -/
def colouredSubject : Filter := [.term Field.subject (.text "<s>"), .term "colour" (.text "red")]

theorem rejects_iff_colouredSubject : ∃ ix,
    (Index.empty Schema.triples).write [(Field.id, .text "1"), (Field.subject, .text "<s>")] = .ok ix ∧
    Reachable Schema.triples ix ∧ Rejects ((Reader.opened ix).evaluate colouredSubject none) ∧
    Rejects (ix.count "subject:\"<s>\" AND colour:\"red\"") ∧ Rejects (ix.delete colouredSubject).2 := by
  have hrun : ((Index.empty Schema.triples).write [(Field.id, .text "1"), (Field.subject, .text "<s>")] >>= fun ix =>
      (ix.evaluate [.term Field.subject (.text "<s>")] none).map IdSet.toList).toOption = some [.text "1"] := by
    decide +kernel
  obtain ⟨ix, hwrite, heval⟩ := bind_eq_ok.1 (toOption_eq_some.1 hrun)
  obtain ⟨selected, heval, hlist⟩ := map_eq_ok.1 heval
  have hproper : Document.IsProper [(Field.id, .text "1"), (Field.subject, .text "<s>")] :=
    ⟨by simp [Table.Distinct, Field.id, Field.subject], by simp [Scalar.IsProper]⟩
  have hreachable : Reachable Schema.triples ix := .write .empty hproper hwrite
  have hcomes : ix.ComesToRefusal colouredSubject := by
    refine ⟨[_], _, [], rfl, .inr ⟨selected, heval, ?_⟩, ?_⟩
    · rintro rfl
      cases hlist
    · rw [Clause.IsRefused, hreachable.maintained.schema_eq]
      trivial
  have htext : (Filter.ofText "subject:\"<s>\" AND colour:\"red\"").toOption = some colouredSubject := by
    decide +kernel
  obtain ⟨hevaluate, -, hdelete, htexts, -⟩ := rejects_iff hreachable colouredSubject
  exact ⟨ix, hwrite, hreachable, (hevaluate none).2 hcomes, (htexts _ (toOption_eq_some.1 htext)).1.2 hcomes,
    hdelete.2 hcomes⟩

/-- Where there are no documents the clause without a field is not looked at, unless it comes first. -/
theorem rejects_iff_unread : (∃ c ∈ colouredSubject, c.IsRefused Schema.triples) ∧
    Reachable Schema.triples (.empty Schema.triples) ∧
    ¬ Rejects ((Reader.opened (.empty Schema.triples)).evaluate colouredSubject none) ∧
    Rejects ((Reader.opened (.empty Schema.triples)).evaluate colouredSubject.reverse none) := by
  have hrefused : (Clause.term "colour" (.text "red")).IsRefused Schema.triples := trivial
  have hanswered : ((Index.empty Schema.triples).evaluate colouredSubject none).toOption = some .empty := by
    decide +kernel
  have hpostings := (sound_empty Schema.triples).isSome_postings?
  refine ⟨⟨_, by simp [colouredSubject], hrefused⟩, .empty, ?_, ?_⟩
  · rw [Reader.evaluate, Reader.snapshot, ok_bind, toOption_eq_some.1 hanswered]
    exact not_rejects_ok _
  · show Rejects ((Index.empty Schema.triples).evaluate
      [.term "colour" (.text "red"), .term Field.subject (.text "<s>")] none)
    exact (rejects_evaluate hpostings _ none).2 (comesToRefusal_cons hrefused _)

end Index

end TripleIndex
