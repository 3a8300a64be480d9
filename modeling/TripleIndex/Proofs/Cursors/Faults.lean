import TripleIndex.Proofs.Deletions.Correctness
import TripleIndex.Query.Circumstances

/-!
The faults of a walk. A query is stopped only by a look: whatever else goes wrong on the way, with the
reader, with the values of the index or with the texts of terms, is a failure of the join.
-/

namespace TripleIndex

variable {α β : Type}

/-- A part of the walk that may fail but does not stop the query. -/
def NeverStops (result : Except Fault α) : Prop := ∀ f, result = .error f → f.isStop = false

namespace NeverStops

theorem ok (a : α) : NeverStops (.ok a) := by
  intro f h
  cases h

theorem error {f : Fault} (hf : f.isStop = false) : NeverStops (.error f : Except Fault α) := by
  intro g h
  cases h
  exact hf

theorem bind {x : Except Fault α} {k : α → Except Fault β} (hx : NeverStops x) (hk : ∀ a, NeverStops (k a)) :
    NeverStops (x >>= k) := by
  intro f h
  rcases bind_eq_error.1 h with hfault | ⟨a, -, hfault⟩
  · exact hx f hfault
  · exact hk a f hfault

theorem map {x : Except Fault α} (hx : NeverStops x) (k : α → β) : NeverStops (x.map k) := by
  intro f h
  exact hx f (map_eq_error.1 h)

theorem of_isPlain {x : Except Fault α} (hx : ∀ f, x = .error f → f.IsPlain) : NeverStops x := by
  intro f h
  have hplain := hx f h
  unfold Fault.IsPlain Fault.isValueFault Fault.isTypeFault at hplain
  unfold Fault.isStop
  cases hkind : f.kind <;> simp_all

end NeverStops

theorem Fault.isStop_reported {f : Fault} (h : f.isStop = false) : f.reported.isStop = false := by
  unfold reported
  split
  · exact h
  · rfl

/-! ## Canonical forms -/

theorem neverStops_formValue (t : Term) : NeverStops t.formValue := by
  have hform : NeverStops t.form := .of_isPlain fun _ => isPlain_form
  unfold Term.formValue
  split
  · exact .ok _
  · exact .ok _
  · next f _ hf => exact .error (hform f hf)

theorem neverStops_integerOf (s : String) : NeverStops (integerOf s) := by
  unfold integerOf
  split
  · exact .ok _
  · exact .error rfl
  · exact .error rfl

theorem neverStops_doubleOf (s : String) : NeverStops (doubleOf s) := by
  unfold doubleOf
  split
  · exact .ok _
  · exact .error rfl

theorem neverStops_readIri (cs : List Char) : NeverStops (readIri cs) := by
  unfold readIri
  split
  · exact .ok _
  · exact .error rfl

theorem neverStops_readNumeric (cs : List Char) : NeverStops (readNumeric cs) := by
  unfold readNumeric
  split
  · exact .ok _
  split
  · exact (neverStops_doubleOf _).map _
  · exact (neverStops_integerOf _).map _

theorem neverStops_readAbbreviated (short rest : List Char) : NeverStops (readAbbreviated short rest) := by
  unfold readAbbreviated
  split
  · exact .ok _
  · exact .error rfl

theorem neverStops_readStrayLiteral (body rest : List Char) : NeverStops (readStrayLiteral body rest) := by
  unfold readStrayLiteral
  split
  · exact .error rfl
  split
  · split
    · exact .ok _
    · exact .error rfl
  · exact .ok _

theorem neverStops_readForm (steps : Nat) (cs : List Char) : NeverStops (readForm steps cs) := by
  -- the text in a datatype or a graph is read by one step fewer; all else is read at once
  induction steps generalizing cs with
  | zero => exact .ok _
  | succ steps ih =>
    cases cs with
    | nil => exact .ok _
    | cons c cs =>
      unfold readForm
      dsimp only
      split
      · exact neverStops_readIri _
      split
      · split
        · exact .ok _
        split
        · split
          · next f hf => exact .error (ih _ f hf)
          · exact neverStops_readStrayLiteral _ _
        · exact neverStops_readStrayLiteral _ _
      split
      · exact .ok _
      split
      · exact neverStops_readNumeric _
      split
      · split
        · next f hf => exact .error (ih _ f hf)
        · exact .error rfl
      split
      · exact .ok _
      split
      · exact neverStops_readAbbreviated _ _
      · exact .ok _

theorem neverStops_readTail (text : String) (lexical : Scalar) (cs : List Char) :
    NeverStops (readTail text lexical cs) := by
  unfold readTail
  split
  · exact .ok _
  · split
    · next f hf => exact .error (neverStops_readForm _ _ f hf)
    · exact .ok _
    · exact .error rfl
  · exact .ok _
  · exact .error rfl

theorem neverStops_readLiteral (text : String) (cs : List Char) : NeverStops (readLiteral text cs) := by
  unfold readLiteral
  dsimp only
  split
  · exact .error rfl
  split
  · exact .error rfl
  split
  · next f hlexical =>
    unfold lexicalOf at hlexical
    split at hlexical
    · cases hlexical
    · cases hlexical
      exact .error rfl
  · exact neverStops_readTail _ _ _

theorem neverStops_ofForm (text : String) : NeverStops (Term.ofForm text) := by
  unfold Term.ofForm
  split
  · exact .error rfl
  · exact neverStops_readLiteral _ _
  split
  · next f hf => exact .error (neverStops_readForm _ _ f hf)
  · exact .ok _
  · split
    · exact .ok _
    · exact .error rfl
  · exact .error rfl

/-! ## Documents and the index -/

theorem neverStops_slotTerm (fields : Document) (slot : Slot) : NeverStops (slotTerm fields slot) := by
  have hform : NeverStops (slotForm fields slot) := by
    unfold slotForm
    split
    · exact .ok _
    · split
      · exact .error rfl
      · exact .ok _
    · exact .error rfl
  exact hform.bind neverStops_ofForm

theorem neverStops_bindSlots (fields : Document) (slots : List (Slot × Term)) (seen b : Binding) :
    NeverStops (bindSlots fields slots seen b) := by
  fun_induction bindSlots fields slots seen b with
  | case1 => exact .ok _
  | case2 slot name rest seen b ih =>
    refine (neverStops_slotTerm fields slot).bind fun t => ?_
    split
    · exact ih t
    · exact .ok _
  | case3 => assumption

theorem neverStops_joinClauses (b : Binding) (slots : List (Slot × Term)) : NeverStops (joinClauses b slots) := by
  fun_induction joinClauses b slots with
  | case1 => exact .ok _
  | case2 => assumption
  | case3 slot name rest t ht ih =>
    exact (neverStops_formValue t).bind fun form => ih.bind fun clauses => .ok _
  | case4 => assumption

theorem neverStops_toInteger (v : Scalar) : NeverStops (toInteger v) := by
  unfold toInteger
  split
  · exact neverStops_integerOf _
  · exact .error rfl
  · exact .ok _
  · exact .ok _
  · exact .error rfl
  · exact .error rfl
  · exact .error rfl
  · exact .ok _

theorem neverStops_toDouble (v : Scalar) : NeverStops (toDouble v) := by
  -- the conversion of integers is kept as an unknown, since it would be computed as far as that goes
  obtain ⟨whole, hwhole⟩ : ∃ whole, Double.ofInt? = whole := ⟨_, rfl⟩
  unfold toDouble
  rw [hwhole]
  split
  · exact neverStops_doubleOf _
  · exact .error rfl
  · exact .ok _
  · exact .error rfl
  · split
    · exact .ok _
    · exact .error rfl
  · split
    · exact .ok _
    · exact .error rfl

theorem neverStops_readBoolean (v : Scalar) : NeverStops (readBoolean v) := by
  unfold readBoolean
  split
  · exact .ok _
  dsimp only
  split
  · exact .ok _
  split
  · exact .ok _
  · exact .error (Fault.isStop_reported rfl)

theorem FieldType.neverStops_convert (type : FieldType) (v : Scalar) : NeverStops (type.convert v) := by
  unfold convert
  split
  · exact .ok _
  · refine NeverStops.map ?_ _
    unfold Scalar.written written
    split
    · exact .ok _
    · exact .error rfl
  · exact (neverStops_toInteger v).map _
  · exact (neverStops_toDouble v).map _
  · exact (neverStops_readBoolean v).map _

theorem Schema.neverStops_convert (schema : Schema) (name : String) (v : Scalar) :
    NeverStops (schema.convert name v) := by
  unfold convert
  split
  · exact .error rfl
  split
  · exact .ok _
  · next cause hcause =>
    split
    · exact .error (Fault.isStop_reported rfl)
    · exact .error (FieldType.neverStops_convert _ v cause hcause)

theorem Index.neverStops_evaluate (ix : Index) (f : Filter) (within : Option IdSet) :
    NeverStops (ix.evaluate f within) := by
  have hbound (field : String) (bound : Option Scalar) :
      NeverStops (bound.mapM (ix.schema.convert field)) := by
    cases bound with
    | none => exact .ok _
    | some v => exact (Schema.neverStops_convert ix.schema field v).map _
  have hselect (c : Clause) : NeverStops (ix.select c) := by
    unfold select
    split
    · exact .error rfl
    split
    · exact (Schema.neverStops_convert _ _ _).bind fun v => .ok _
    · exact (hbound _ _).bind fun lower => (hbound _ _).bind fun upper => .ok _
  have hnarrow (f : Filter) (selected : Option IdSet) : NeverStops (ix.narrow f selected) := by
    induction f generalizing selected with
    | nil => exact .ok _
    | cons c cs ih =>
      unfold narrow
      split
      · exact .ok _
      · exact (hselect c).bind fun matching => ih _
  exact (hnarrow f none).bind fun selected => .ok _

/-! ## Requests -/

theorem Reader.neverStops_snapshot (r : Reader) : NeverStops r.snapshot := by
  cases r with
  | opened ix => exact .ok _
  | closed => exact .error rfl

theorem Reader.neverStops_evaluate (r : Reader) (f : Filter) (within : Option IdSet) :
    NeverStops (r.evaluate f within) :=
  r.neverStops_snapshot.bind fun ix => ix.neverStops_evaluate f within

theorem Reader.neverStops_read (r : Reader) (id : DocId) : NeverStops (r.read id) := by
  refine r.neverStops_snapshot.bind fun ix => ?_
  split
  · exact .ok _
  · exact .error rfl

theorem Level.neverStops_fetch (l : Level) (r : Reader) (size : PageSize) : NeverStops (l.fetch r size) := by
  have horder (ids : IdSet) : NeverStops (Reader.checkOrder ids) := by
    unfold Reader.checkOrder
    split
    · exact .error rfl
    · exact .ok _
  have hcount : NeverStops size.count := by
    cases size with
    | rows n positive => exact .ok _
    | fraction => exact .error rfl
  unfold fetch
  split
  · exact r.neverStops_snapshot.bind fun _ => (horder _).bind fun _ => hcount.bind fun _ => .ok _
  · exact .ok _

theorem Candidates.neverStops_requirePattern (c : Candidates) : NeverStops c.requirePattern := by
  unfold requirePattern
  split
  · exact .ok _
  · exact .error rfl

namespace Circumstances

variable (w : Circumstances) (moment : Nat)

theorem neverStops_request {answer : Except Fault α} (h : NeverStops answer) :
    NeverStops (w.lost.request moment answer).1 := by
  unfold Trouble.request
  split
  · next f hf => exact .error (w.lost_isStop moment f hf)
  · exact h

theorem neverStops_fetch (l : Level) (r : Reader) (size : PageSize) :
    NeverStops (w.lost.fetch moment l r size).1 := by
  unfold Trouble.fetch
  split
  · exact w.neverStops_request moment (l.neverStops_fetch r size)
  · exact .ok _

theorem neverStops_extend (c : Candidates) (r : Reader) (id : DocId) (parent : Binding) :
    NeverStops (w.lost.extend moment c r id parent).1 := by
  have hread := w.neverStops_request moment (r.neverStops_read id)
  unfold Trouble.extend
  split
  · next f later hf =>
    rw [hf] at hread
    exact .error (hread f rfl)
  · exact c.neverStops_requirePattern.bind fun p => neverStops_bindSlots _ _ _ _

theorem neverStops_narrow (c : Candidates) (r : Reader) (f : Filter) :
    NeverStops (w.lost.narrow moment c r f).1 := by
  unfold Trouble.narrow
  split
  · exact .ok _
  · exact w.neverStops_request moment (r.neverStops_evaluate f (some c.ids))

end Circumstances

end TripleIndex
