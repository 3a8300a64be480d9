import TripleIndex.Term.Read
import TripleIndex.Proofs.Outcome

/-!
Canonical texts. A text is canonical if the term that is read from it has the text as its form. All
parts of a term that is read are texts, so two terms that are read are the same only if they are equal,
and canonical texts with the same term are equal.
-/

namespace TripleIndex

/-- A text, which may hold surrogates. -/
def Scalar.IsText : Scalar → Prop
  | .text _ | .codePoints _ => True
  | _ => False

theorem Scalar.alike_iff_eq {a b : Scalar} (ha : a.IsText) (hb : b.IsText) : a.alike b = true ↔ a = b := by
  refine ⟨fun h => ?_, fun h => h ▸ alike_self a⟩
  rw [alike, Bool.or_eq_true, beq_iff_eq] at h
  refine h.elim id fun hsame => ?_
  cases a with
  | text s => cases b with
    | text t => rw [beq_iff_eq.1 (show (s == t) = true from hsame)]
    | codePoints ns => cases hsame
    | _ => exact hb.elim
  | codePoints ms => cases b with
    | text t => cases hsame
    | codePoints ns => rw [beq_iff_eq.1 (show (ms == ns) = true from hsame)]
    | _ => exact hb.elim
  | _ => exact ha.elim

theorem Scalar.isText_ofCodePoints (ns : List Nat) : (ofCodePoints ns).IsText := by
  unfold ofCodePoints
  split <;> trivial

theorem isText_of_unescape? {cs : List Char} {v : Scalar} (h : unescape? cs = some v) : v.IsText := by
  obtain ⟨ns, -, rfl⟩ := Option.map_eq_some_iff.1 h
  exact Scalar.isText_ofCodePoints ns

/-! ## What is read -/

theorem isText_of_readIri {cs : List Char} {v : Scalar} (h : readIri cs = .ok (.iri v)) : v.IsText := by
  unfold readIri at h
  split at h
  · next value hvalue =>
    cases h
    exact isText_of_unescape? hvalue
  · cases h

theorem readStrayLiteral_ne_iri {body rest : List Char} {v : Scalar} :
    readStrayLiteral body rest ≠ .ok (.iri v) := by
  intro h
  unfold readStrayLiteral at h
  split at h
  · cases h
  · split at h
    · split at h <;> cases h
    · cases h

theorem readNumeric_ne_iri {cs : List Char} {v : Scalar} : readNumeric cs ≠ .ok (.iri v) := by
  intro h
  unfold readNumeric at h
  split at h
  · cases h
  · split at h
    · obtain ⟨x, -, hx⟩ := map_eq_ok.1 h
      cases hx
    · obtain ⟨n, -, hn⟩ := map_eq_ok.1 h
      cases hn

theorem isText_of_readAbbreviated {short rest : List Char} {v : Scalar}
    (h : readAbbreviated short rest = .ok (.iri v)) : v.IsText := by
  unfold readAbbreviated at h
  split at h
  · cases h
    trivial
  · cases h

theorem isText_of_readForm {steps : Nat} {cs : List Char} {v : Scalar}
    (h : readForm steps cs = .ok (.iri v)) : v.IsText := by
  unfold readForm at h
  split at h
  · cases h
  · cases h
  · dsimp only at h
    split at h
    · exact isText_of_readIri h
    split at h
    · split at h
      · cases h
      split at h
      · split at h
        · cases h
        · exact absurd h readStrayLiteral_ne_iri
      · exact absurd h readStrayLiteral_ne_iri
    split at h
    · cases h
    split at h
    · exact absurd h readNumeric_ne_iri
    split at h
    · split at h <;> cases h
    split at h
    · cases h
    split at h
    · exact isText_of_readAbbreviated h
    · cases h

namespace Term

def IsTextual : Term → Prop
  | literal l => l.value.IsText ∧ (∀ v ∈ l.language, v.IsText) ∧ ∀ v ∈ l.datatype, v.IsText
  | iriOfValue v => v.IsText
  | _ => True

theorem alike?_iff_eq {a b : Option Scalar} (ha : ∀ v ∈ a, v.IsText) (hb : ∀ v ∈ b, v.IsText) :
    alike? a b = true ↔ a = b := by
  cases a with
  | none => cases b <;> simp [alike?]
  | some v =>
    cases b with
    | none => simp [alike?]
    | some w => simpa [alike?] using Scalar.alike_iff_eq (ha v rfl) (hb w rfl)

theorem same_iff_eq {a b : Term} (ha : a.IsTextual) (hb : b.IsTextual) : a.same b = true ↔ a = b := by
  cases a with
  | literal l => cases b with
    | literal m =>
      obtain ⟨v, language, datatype⟩ := l
      obtain ⟨w, language', datatype'⟩ := m
      simp only [same, Literal.same, Bool.and_eq_true, Scalar.alike_iff_eq ha.1 hb.1,
        alike?_iff_eq ha.2.1 hb.2.1, alike?_iff_eq ha.2.2 hb.2.2, literal.injEq, Literal.mk.injEq, and_assoc]
    | _ => simp [same]
  | iriOfValue v => cases b with
    | iriOfValue w => simpa [same] using Scalar.alike_iff_eq ha hb
    | _ => simp [same]
  | _ => cases b <;> simp [same]

theorem isTextual_of_readTail {text : String} {lexical : Scalar} {rest : List Char} {t : Term}
    (hlexical : lexical.IsText) (h : readTail text lexical rest = .ok t) : t.IsTextual := by
  unfold readTail at h
  split at h
  · cases h
    exact ⟨hlexical, by simp, by simp⟩
  · split at h
    · cases h
    · next datatype hread =>
      cases h
      refine ⟨hlexical, by simp, ?_⟩
      simpa using isText_of_readForm hread
    · cases h
  · cases h
    exact ⟨hlexical, by simp [Scalar.IsText], by simp⟩
  · cases h

theorem isTextual_ofIri {v : Scalar} (hv : v.IsText) : (ofIri v).IsTextual := by
  cases v with
  | text s => trivial
  | codePoints ns => trivial
  | _ => exact hv.elim

theorem isTextual_of_ofForm {s : String} {t : Term} (h : ofForm s = .ok t) : t.IsTextual := by
  unfold ofForm at h
  split at h
  · cases h
  · unfold readLiteral at h
    dsimp only at h
    split at h
    · cases h
    · split at h
      · cases h
      · split at h
        · cases h
        · next lexical hlexical =>
          refine isTextual_of_readTail ?_ h
          unfold lexicalOf at hlexical
          split at hlexical
          · next v hv =>
            cases hlexical
            exact isText_of_unescape? hv
          · cases hlexical
  · split at h
    · cases h
    · next value hread =>
      cases h
      exact isTextual_ofIri (isText_of_readForm hread)
    · split at h
      · cases h
        trivial
      · cases h
    · cases h

end Term

/-- The text is the form of the term that is read from it. -/
def IsCanonical (s : String) : Prop := ∃ t, Term.ofForm s = .ok t ∧ t.form = .ok s

instance (s : String) : Decidable (IsCanonical s) :=
  match hread : Term.ofForm s with
  | .error _ => .isFalse fun ⟨_, ht, _⟩ => nomatch hread.symm.trans ht
  | .ok t =>
    match hform : t.form with
    | .error _ => .isFalse fun ⟨_, ht, hs⟩ => by
      cases hread.symm.trans ht
      cases hform.symm.trans hs
    | .ok s' => decidable_of_iff (s' = s)
      ⟨fun h => ⟨t, hread, h ▸ hform⟩, fun ⟨_, ht, hs⟩ => by
        cases hread.symm.trans ht
        exact Except.ok.inj (hform.symm.trans hs)⟩

theorem form_of_isCanonical {s : String} {t : Term} (hs : IsCanonical s) (h : Term.ofForm s = .ok t) :
    t.form = .ok s := by
  obtain ⟨t', hread, hform⟩ := hs
  cases h.symm.trans hread
  exact hform

theorem same_iff_of_isCanonical {s s' : String} {t t' : Term} (hs : IsCanonical s) (hs' : IsCanonical s')
    (ht : Term.ofForm s = .ok t) (ht' : Term.ofForm s' = .ok t') : t.same t' = true ↔ s = s' := by
  rw [Term.same_iff_eq (Term.isTextual_of_ofForm ht) (Term.isTextual_of_ofForm ht')]
  constructor
  · rintro rfl
    have hform := (form_of_isCanonical hs ht).symm.trans (form_of_isCanonical hs' ht')
    exact Except.ok.inj hform
  · rintro rfl
    exact Except.ok.inj (ht.symm.trans ht')

end TripleIndex
