import TripleIndex.Proofs.Terms.Quoteless

/-!
Terms that documents keep. What is read back from the form of a literal is a literal with a text, and with a tag or
a datatype only if it is not empty. It has the form of the literal it was made of, and its lexical form too, unless
white space or backslashes have been lost.
-/

namespace TripleIndex

variable {l : Literal} {form : String}

theorem backslash_notMem_datatypes (family : CodecFamily) : ∀ name ∈ family.datatypes, '\\' ∉ name.toList := by
  cases family <;> decide

namespace Literal

/-- The literal that is read back if nothing is lost. -/
def kept (l : Literal) : Literal := ⟨.text l.lexical, l.language?, l.datatype?⟩

/-- A literal that loses nothing: no white space that its datatype leaves out, no other spelling of a special
value, no backslash and no part of the name of its datatype. -/
structure IsKept (l : Literal) : Prop where
  made : l.IsMade
  normalized : normalizeLexical l.datatype? l.lexical.toList = l.lexical.toList
  spelled : l.IsSpelled
  backslashes : KeepsBackslashes (l.lexical.toList.contains '\n') l.lexical.toList
  datatype : ∀ name, l.datatype? = some (.text name) → '"' ∉ name.toList ∧ '\\' ∉ name.toList

theorem nonEmpty?_cases (v : Option Scalar) : nonEmpty? v = v ∨ nonEmpty? v = none := by
  unfold nonEmpty?
  split
  · split
    · exact .inl rfl
    · exact .inr rfl
  · exact .inl rfl

theorem nonEmpty?_nonEmpty? (v : Option Scalar) : nonEmpty? (nonEmpty? v) = nonEmpty? v := by
  rcases nonEmpty?_cases v with h | h
  · rw [h, h]
  · rw [h]
    rfl

@[simp] theorem lexical_kept (l : Literal) : l.kept.lexical = l.lexical := rfl

@[simp] theorem language?_kept (l : Literal) : l.kept.language? = l.language? := nonEmpty?_nonEmpty? l.language

@[simp] theorem datatype?_kept (l : Literal) : l.kept.datatype? = l.datatype? := nonEmpty?_nonEmpty? l.datatype

@[simp] theorem languageField_kept (l : Literal) : languageField l.kept = languageField l := by
  rw [languageField, languageField, language?_kept]

theorem forLiteral_kept (l : Literal) : Registry.default.forLiteral l.kept = Registry.default.forLiteral l := by
  have hdatatype : l.kept.datatype = l.datatype? := rfl
  unfold Registry.forLiteral
  rw [hdatatype, datatype?]
  cases l.datatype with
  | none => rfl
  | some v =>
    cases v with
    | text name =>
      by_cases hname : name = ""
      · subst hname
        rfl
      · rw [nonEmpty?, if_pos (show (Scalar.text name).isSet = true from decide_eq_true hname)]
    | _ => rcases nonEmpty?_cases (some _) with h | h <;> rw [h]

theorem isWritable_kept (hwritable : l.isWritable = true) : l.kept.isWritable = true := by
  have hoption : ∀ {v : Option Scalar}, v.all Scalar.isWritable = true →
      (nonEmpty? v).all Scalar.isWritable = true := by
    intro v hv
    rcases nonEmpty?_cases v with h | h
    · rwa [h]
    · rw [h]
      rfl
  simp only [isWritable, Bool.and_eq_true] at hwritable ⊢
  exact ⟨⟨rfl, hoption hwritable.1.2⟩, hoption hwritable.2⟩

theorem form_kept (hl : l.IsMade) (h : l.form = .ok form) : l.kept.form = .ok form := by
  have hdatatype := fun dt (hdt : l.datatype? = some dt) => l.exists_datatype_text hl h hdt
  obtain ⟨htext, hwritable, -, hchars⟩ := form_eq_ok.1 h
  have hformChars : l.kept.formChars = .ok form.toList := by
    rw [← hchars, formChars, formChars, language?_kept, datatype?_kept, lexical_kept]
  have hhidden : l.kept.hidden.any isSurrogate = false := by
    rw [hidden, List.any_append, datatype?_kept, kept, any_isSurrogate_replaced_text, Bool.false_or]
    cases hdt : l.datatype? with
    | none => rfl
    | some dt =>
      obtain ⟨name, rfl⟩ := hdatatype dt hdt
      exact any_isSurrogate_replaced_text name
  have htext' : l.kept.hasDatatypeText = true := by rwa [hasDatatypeText, datatype?_kept, ← hasDatatypeText]
  exact form_eq_ok.2 ⟨htext', isWritable_kept hwritable, hhidden, hformChars⟩

theorem ofForm_kept (hl : l.IsKept) (h : l.form = .ok form) : Term.ofForm form = .ok (.literal l.kept) := by
  obtain ⟨hform, htags⟩ := l.form_toList hl.made hl.spelled h
  rw [hl.normalized] at hform
  have hnames : ∀ v ∈ l.datatype?, ∃ name, v = .text name ∧ '"' ∉ name.toList ∧ '\\' ∉ name.toList := by
    intro v hv
    obtain ⟨name, rfl⟩ := l.exists_datatype_text hl.made h hv
    exact ⟨name, rfl, hl.datatype name hv⟩
  obtain ⟨htail, hread⟩ := l.readTail_tail hl.made.single htags hnames
  rw [Term.ofForm_quotedForm hform htail, decode_of_keepsBackslashes hl.backslashes]
  dsimp only
  rw [hread, ofCodePoints_map_toNat, String.ofList_toList, kept]

theorem isKept_of_encode {fields : List (String × Scalar)} (hl : l.IsMade)
    (hnumeric : Registry.default.forLiteral l = .numeric) (h : CodecFamily.numeric.encode l = .ok fields) :
    l.IsKept := by
  obtain ⟨name, hmem, -, hdatatype, hkeeps⟩ := datatype?_of_forLiteral (l := l) (by rw [hnumeric]; decide)
  have hbackslash : '\\' ∉ l.lexical.toList := notMem_of_encode h (by decide) (by decide) (by decide)
  refine ⟨hl, hkeeps _, l.isSpelled_of_encode (by rwa [hnumeric]), fun rest hrest => ?_, fun other hother => ?_⟩
  · exact absurd (hrest.subset List.mem_cons_self) hbackslash
  · cases hdatatype.symm.trans hother
    exact ⟨(CodecFamily.datatypes_spec _ name hmem).2.1, backslash_notMem_datatypes _ name hmem⟩

end Literal

/-! ## Terms -/

namespace Term

variable {t : Term}

/-- The term that is read back if nothing is lost. -/
def kept : Term → Term
  | literal l => literal l.kept
  | t => t

def IsKept : Term → Prop
  | literal l => l.IsKept
  | iriOfValue v => v.IsProper
  | _ => True

/-- A term that loses nothing is read back from its form, which is the form of what is read. -/
theorem ofForm_kept (ht : t.IsKept) (h : t.form = .ok form) : ofForm form = .ok t.kept ∧ t.kept.form = .ok form := by
  cases t with
  | iri value => exact ⟨ofForm_form_iri h, h⟩
  | blank label => exact ⟨ofForm_form_blank h, h⟩
  | literal l => exact ⟨l.ofForm_kept ht h, l.form_kept ht.made h⟩
  | var name => cases h
  | bare s => cases h
  | iriOfValue v =>
    cases v with
    | codePoints ns =>
      -- a proper list of code points has a surrogate, which no form shows
      replace h : formOfIri (.codePoints ns) = .ok form := h
      unfold formOfIri at h
      dsimp only at h
      split at h
      · have hsurrogate : (replaced ns).any isSurrogate = true := by
          obtain ⟨n, hn, hsurrogate⟩ := List.any_eq_true.1 (show ns.any isSurrogate = true from ht)
          exact List.any_eq_true.2 ⟨n, List.mem_filter.2 ⟨hn, by rw [hsurrogate, Bool.true_or]⟩, hsurrogate⟩
        rw [encodable, if_pos hsurrogate] at h
        cases h
      · cases h
    | _ => cases h

end Term

namespace Pattern

/-- The triple that is read back if nothing is lost. -/
def kept (p : Pattern) : Pattern := ⟨p.subject.kept, p.predicate.kept, p.object.kept⟩

/-- A triple of terms that lose nothing. -/
structure IsKept (p : Pattern) : Prop where
  subject : p.subject.IsKept
  predicate : p.predicate.IsKept
  object : p.object.IsKept

end Pattern

end TripleIndex
