import TripleIndex.Proofs.Deletions.Stores
import TripleIndex.Proofs.Terms.RoundTrip

/-!
What the documents of triples say. Their identifier is that of the texts of their slots, an object that
is a literal is known by the quote that its text starts with, and only such an object has a language field
and a value that one codec has made of it.
-/

namespace TripleIndex

/-! ## Quotes -/

theorem head?_replaceAll {old new cs : List Char} (h : ∀ c ∈ cs.head?, old.head? ≠ some c) (hold : old ≠ []) :
    (replaceAll old new cs).head? = cs.head? := by
  cases cs with
  | nil => rfl
  | cons c cs =>
    have hfront : ¬ old <+: c :: cs := by
      rintro ⟨rest, hrest⟩
      obtain ⟨p, old, rfl⟩ := List.exists_cons_of_ne_nil hold
      refine h c rfl ?_
      rw [List.head?_cons, (List.cons.inj hrest).1]
    rw [replaceAll_cons hfront]
    rfl

theorem head?_quotedForm (cs : List Char) : (quotedForm cs).head? = some '"' := by
  unfold quotedForm
  split
  · rfl
  · rfl

theorem head?_spellSpecial {lexical quoted : List Char} (h : quoted.head? = some '"') :
    (spellSpecial lexical quoted).head? = some '"' := by
  have hreplace : ∀ {old new cs : List Char}, old ≠ [] → old.head? ≠ some '"' → cs.head? = some '"' →
      (replaceAll old new cs).head? = some '"' := by
    intro old new cs hold hne hcs
    rw [head?_replaceAll (by rw [hcs]; simpa using hne) hold, hcs]
  unfold spellSpecial
  split
  · exact hreplace (by decide) (by decide) (hreplace (by decide) (by decide) h)
  · exact hreplace (by decide) (by decide) h
  · exact h

namespace Literal

theorem head?_formChars {l : Literal} {chars : List Char} (h : l.formChars = .ok chars) :
    chars.head? = some '"' := by
  have happend : ∀ {cs tail : List Char}, cs.head? = some '"' → (cs ++ tail).head? = some '"' := by
    intro cs tail hcs
    rw [List.head?_append, hcs]
    rfl
  unfold formChars at h
  dsimp only at h
  have hquoted := head?_quotedForm (normalizeLexical l.datatype? l.lexical.toList)
  split at h
  · split at h
    · cases h
      exact happend hquoted
    · cases h
  · cases h
  · cases h
    refine happend (happend ?_)
    split
    · exact head?_spellSpecial hquoted
    · exact hquoted
  · cases h
    exact hquoted

theorem head?_form {l : Literal} {form : String} (h : l.form = .ok form) : form.toList.head? = some '"' := by
  obtain ⟨-, -, -, hchars⟩ := form_eq_ok.1 h
  exact head?_formChars hchars

end Literal

theorem Term.head?_form {t : Term} {form : String} (ht : ∀ l, t ≠ .literal l) (h : t.form = .ok form) :
    form.toList.head? ≠ some '"' := by
  have hiri : ∀ {v : Scalar}, formOfIri v = .ok form → form.toList.head? ≠ some '"' := by
    intro v h
    unfold formOfIri at h
    split at h
    · split at h
      · rw [(encodable_eq_ok.1 h).2]
        simp
      · cases h
    · cases h
  unfold Term.form at h
  split at h
  · cases h
  · split at h
    · cases h
      simp
    · cases h
  · exact hiri h
  · cases h
    simp
  · next l => exact absurd rfl (ht l)
  · cases h

/-! ## Documents -/

/-- A literal of the numeric codec that is no number. -/
def Literal.IsNumericNan (registry : Registry) (l : Literal) : Prop :=
  registry.forLiteral l = .numeric ∧ trim l.lexical.toList = "NaN".toList

instance (registry : Registry) (l : Literal) : Decidable (l.IsNumericNan registry) :=
  inferInstanceAs (Decidable (_ ∧ _))

theorem Literal.isIndexable_iff {registry : Registry} {l : Literal} :
    (registry.forLiteral l).isIndexable l.lexical = true ↔ ¬ l.IsNumericNan registry := by
  unfold IsNumericNan
  cases registry.forLiteral l <;> simp [CodecFamily.isIndexable]

namespace Document

def codecFields (d : Document) : List String :=
  ([.text, .numeric, .date, .boolean].map CodecFamily.field).filter fun name => (d.lookup name).isSome

/-- A document that says of a triple what its texts are, with the fields that go with its object. -/
structure Describes (registry : Registry) (context subject predicate object : String) (d : Document) : Prop where
  texts : d.lookup Field.context = some (.text context) ∧ d.lookup Field.subject = some (.text subject) ∧
    d.lookup Field.predicate = some (.text predicate) ∧ d.lookup Field.object = some (.text object)
  id : d.lookup Field.id = some (.text (documentId context subject predicate object))
  lang : (d.lookup Field.lang).isSome = true ↔ object.toList.head? = some '"'
  plain : object.toList.head? ≠ some '"' → d.codecFields = []
  literal : object.toList.head? = some '"' → ∃ l : Literal, l.form = .ok object ∧
    d.codecFields = if l.IsNumericNan registry then [] else [(registry.forLiteral l).field]

end Document

theorem describes_document {registry : Registry} {triple : Pattern} {graph : Option Term} {d : Document}
    (h : document registry triple graph = .ok d) :
    ∃ context subject predicate object, d.Describes registry context subject predicate object := by
  obtain ⟨context, subject, predicate, fields, hfields, rfl⟩ := document_eq_ok h
  unfold objectFields at hfields
  split at hfields
  · next l _ =>
    obtain ⟨encoded, hencoded, hfields⟩ := bind_eq_ok.1 hfields
    cases hfields
    obtain ⟨form, hform, hencoded⟩ := encode_fields hencoded
    have hquote := l.head?_form hform
    have hplain : ∀ {P : Prop}, form.toList.head? ≠ some '"' → P := fun hne => absurd hquote hne
    refine ⟨context, subject, predicate, form, ?_⟩
    split at hencoded
    · next hindexable =>
      obtain ⟨value, -, rfl⟩ := hencoded
      have hnan := Literal.isIndexable_iff.1 hindexable
      refine ⟨⟨rfl, rfl, rfl, rfl⟩, rfl, iff_of_true ?_ hquote, hplain, fun _ => ⟨l, hform, ?_⟩⟩
      · cases registry.forLiteral l <;> rfl
      · rw [if_neg hnan]
        cases registry.forLiteral l <;> rfl
    · next hindexable =>
      -- without a value there is no field of a codec
      subst hencoded
      have hnan : l.IsNumericNan registry := by rwa [Literal.isIndexable_iff, not_not] at hindexable
      refine ⟨⟨rfl, rfl, rfl, rfl⟩, rfl, iff_of_true rfl hquote, hplain, fun _ => ⟨l, hform, ?_⟩⟩
      rw [if_pos hnan]
      rfl
  · next ht =>
    obtain ⟨form, hform, hfields⟩ := bind_eq_ok.1 hfields
    cases hfields
    have hquote : form.toList.head? ≠ some '"' := Term.head?_form ht hform
    refine ⟨context, subject, predicate, form, ⟨rfl, rfl, rfl, rfl⟩, rfl, iff_of_false ?_ hquote,
      fun _ => rfl, fun h => absurd h hquote⟩
    exact Bool.false_ne_true

end TripleIndex
