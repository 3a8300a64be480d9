import TripleIndex.Proofs.Deletions.Stores

/-!
Deletions and queries. A deletion removes the documents that the query of its pattern selects as long as the
text of the query has no tab. With a tab in it the deletion finds other documents, so that it is right only
when there is nothing to find. A pattern that cannot be compiled is refused.
-/

namespace TripleIndex

/-! ## Refusals -/

/-- A fault that the clauses of a pattern can come to: it is about a term or a value. -/
def Fault.IsPlain (e : Fault) : Prop := (e.isValueFault || e.isTypeFault) = true

theorem Fault.isPlain_reported {e : Fault} (h : e.IsPlain) : e.reported.IsPlain := by
  unfold reported
  split
  · exact h
  · rfl

theorem isPlain_encodable {hidden : List Nat} {cs : List Char} {e : Fault}
    (h : encodable hidden cs = .error e) : e.IsPlain := by
  unfold encodable at h
  split at h
  · cases h
    rfl
  · cases h

theorem isPlain_formChars {l : Literal} {e : Fault} (h : l.formChars = .error e) : e.IsPlain := by
  unfold Literal.formChars at h
  dsimp only at h
  split at h
  · split at h
    · cases h
    · cases h
      rfl
  · cases h
    rfl
  · cases h
  · cases h

theorem isPlain_formOfIri {v : Scalar} {e : Fault} (h : Term.formOfIri v = .error e) : e.IsPlain := by
  unfold Term.formOfIri at h
  split at h
  · split at h
    · exact isPlain_encodable h
    · cases h
      rfl
  · cases h
    rfl

theorem isPlain_literalForm {l : Literal} {e : Fault} (h : l.form = .error e) : e.IsPlain := by
  unfold Literal.form at h
  split at h
  · cases h
    rfl
  split at h
  · cases h
    rfl
  · rcases bind_eq_error.1 h with h | ⟨chars, -, h⟩
    · exact isPlain_formChars h
    · exact isPlain_encodable h

theorem isPlain_form {t : Term} {e : Fault} (h : t.form = .error e) : e.IsPlain := by
  cases t with
  | iri value =>
    unfold Term.form at h
    dsimp only at h
    split at h
    · cases h
    · cases h
      rfl
  | iriOfValue v => exact isPlain_formOfIri h
  | literal l => exact isPlain_literalForm h
  | blank label => cases h
  | _ =>
    cases h
    rfl

theorem isPlain_graphForm {graph : Option Term} {e : Fault} (h : graphForm graph = .error e) : e.IsPlain := by
  unfold graphForm at h
  split at h
  · exact isPlain_form h
  · exact isPlain_form h
  · exact isPlain_form h
  · exact isPlain_form h
  · cases h
    exact Fault.isPlain_reported rfl

theorem isPlain_numericValue {lexical : String} {e : Fault} (h : CodecFamily.numericValue lexical = .error e) :
    e.IsPlain := by
  unfold CodecFamily.numericValue at h
  dsimp only at h
  split at h
  · unfold doubleOf at h
    split at h
    · cases h
    · cases h
      rfl
  · cases h
    rfl

theorem isPlain_epochMillis {lexical : String} {e : Fault} (h : epochMillis lexical = .error e) : e.IsPlain := by
  unfold epochMillis at h
  split at h
  split at h
  · cases h
    rfl
  split at h
  · split at h
    · cases h
    · cases h
      rfl
  · split at h
    · cases h
    · cases h
      rfl

theorem isPlain_readBoolean {text : String} {e : Fault} (h : readBoolean (.text text) = .error e) : e.IsPlain := by
  unfold readBoolean at h
  dsimp only at h
  split at h
  · cases h
  split at h
  · cases h
  · cases h
    exact Fault.isPlain_reported rfl

theorem isPlain_fieldValue {family : CodecFamily} {lexical : String} {e : Fault}
    (h : family.fieldValue lexical = .error e) : e.IsPlain := by
  cases family with
  | text => cases h
  | numeric => exact isPlain_numericValue (map_eq_error.1 h)
  | date => exact isPlain_epochMillis (map_eq_error.1 h)
  | boolean => exact isPlain_readBoolean (map_eq_error.1 h)

theorem isPlain_literalClause {registry : Registry} {l : Literal} {e : Fault}
    (h : literalClause registry l = .error e) : e.IsPlain := by
  unfold literalClause at h
  dsimp only at h
  split at h
  · cases h
    rfl
  split at h
  · exact isPlain_fieldValue (map_eq_error.1 h)
  · rcases bind_eq_error.1 h with h | ⟨form, -, h⟩
    · exact isPlain_literalForm h
    · cases h

theorem isPlain_slotClauses {field : String} {t : Term} {e : Fault} (h : slotClauses field t = .error e) :
    e.IsPlain := by
  unfold slotClauses at h
  split at h
  · cases h
  · exact isPlain_form (map_eq_error.1 h)

theorem isPlain_objectClauses {registry : Registry} {t : Term} {e : Fault}
    (h : objectClauses registry t = .error e) : e.IsPlain := by
  unfold objectClauses at h
  split at h
  · rcases bind_eq_error.1 h with h | ⟨clause, -, h⟩
    · exact isPlain_literalClause h
    · cases h
  · exact isPlain_slotClauses h

theorem isPlain_patternClauses {registry : Registry} {p : Pattern} {graph : Option Term} {e : Fault}
    (h : patternClauses registry p graph = .error e) : e.IsPlain := by
  -- a pattern fails with the first of its parts that does
  rcases bind_eq_error.1 h with h | ⟨subject, -, h⟩
  · exact isPlain_slotClauses h
  rcases bind_eq_error.1 h with h | ⟨predicate, -, h⟩
  · exact isPlain_slotClauses h
  rcases bind_eq_error.1 h with h | ⟨object, -, h⟩
  · exact isPlain_objectClauses h
  rcases bind_eq_error.1 h with h | ⟨context, -, h⟩
  · exact isPlain_graphForm h
  · cases h

namespace Store

variable {registry : Registry} {s : Store} {p : Pattern} {g : Option Term}

theorem compile_eq_ok {graph : Option Term} {f : Filter} :
    compile registry p graph = .ok f ↔ patternClauses registry p graph = .ok f := by
  unfold compile
  cases patternClauses registry p graph with
  | ok f => exact Iff.rfl
  | error cause =>
    dsimp only
    split <;> simp

theorem kind_reported {e : Fault} {kind : FaultKind} (h : e.reported.kind = kind) (hkind : kind ≠ .invalidValue) :
    e.isWritable = true ∧ e.kind = kind := by
  unfold Fault.reported at h
  split at h
  · next hwritable => exact ⟨hwritable, h⟩
  · exact absurd h.symm hkind

def stated (text : String) : Pattern :=
  ⟨.iri "http://example.org/s", .iri "http://example.org/p", .literal (.ofText text)⟩

/-- All triples with that text. -/
def stating (text : String) : Pattern := { stated text with subject := .var "s" }

def single (text : String) : Except Fault Store := do (← Store.make .default .default).insert (stated text) none

def untermed : Pattern := ⟨.bare "s", .var "p", .var "o"⟩

end Store

end TripleIndex
