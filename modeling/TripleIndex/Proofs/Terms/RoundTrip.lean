import TripleIndex.Codec.Registry
import TripleIndex.Proofs.Terms.Forms
import TripleIndex.Proofs.Terms.Numerals
import TripleIndex.Proofs.Terms.Reading
import TripleIndex.Proofs.ValueOrder

/-!
The round trip of terms. A form is read back as the term that it was made of, except that a literal loses
a backslash before an `x` and, if it has a newline, before a bare quote. What follows the quotes of a
literal gives its tag or its datatype back.
-/

namespace TripleIndex

variable {cs : List Char} {c : Char}

/-! ## What follows the quotes -/

/-- The characters of a language tag, with the newline that is let through after it. -/
def isTagChar (c : Char) : Bool := c.isAlphanum || c = '-' || c = '\n'

theorem isTagChar_of_areSubtags {primary fresh : Bool} (h : areSubtags primary fresh cs = true) (hc : c ∈ cs) :
    isTagChar c = true := by
  induction cs generalizing primary fresh with
  | nil => cases hc
  | cons d cs ih =>
    rw [areSubtags] at h
    split at h
    · next hhyphen =>
      rcases List.mem_cons.1 hc with rfl | hc
      · simp [isTagChar, hhyphen]
      · exact ih (Bool.and_eq_true_iff.1 h).2 hc
    · obtain ⟨hletter, h⟩ := Bool.and_eq_true_iff.1 h
      rcases List.mem_cons.1 hc with rfl | hc
      · have halphanum : c.isAlphanum = true := by
          simp only [Bool.or_eq_true, Bool.and_eq_true] at hletter
          rw [Char.isAlphanum, Bool.or_eq_true]
          exact hletter.imp_right And.right
        simp [isTagChar, halphanum]
      · exact ih h hc

theorem isTagChar_of_isLanguageTag (h : isLanguageTag cs = true) (hc : c ∈ cs) : isTagChar c = true := by
  unfold isLanguageTag at h
  split at h
  · next hlast =>
    obtain ⟨front, rfl⟩ := List.getLast?_eq_some_iff.1 hlast
    rw [List.dropLast_concat] at h
    rcases List.mem_append.1 hc with hc | hc
    · exact isTagChar_of_areSubtags h hc
    · rw [List.mem_singleton.1 hc]
      rfl
  · exact isTagChar_of_areSubtags h hc

/-- A literal as it can be made: with a proper tag and a proper datatype, one of them at most. -/
structure Literal.IsMade (l : Literal) : Prop where
  language : ∀ v ∈ l.language, v.IsProper
  datatype : ∀ v ∈ l.datatype, v.IsProper
  single : l.language? = none ∨ l.datatype? = none

/-- The tag or the datatype as a form shows it. -/
def Literal.tail (l : Literal) : List Char :=
  match l.language?, l.datatype? with
  | some tag, _ => '@' :: tag.plain.toList
  | none, some dt => '^' :: '^' :: ('<' :: dt.plain.toList ++ ['>'])
  | none, none => []

theorem forLiteral_of_hasSpecialValues {l : Literal} {name : String} (hname : l.datatype = some (.text name))
    (h : hasSpecialValues name = true) : Registry.default.forLiteral l = .numeric := by
  unfold Registry.forLiteral
  rw [hname]
  simp only [hasSpecialValues, Bool.or_eq_true, decide_eq_true_eq] at h
  rcases h with (rfl | rfl) | rfl <;> decide

theorem eq_some_of_nonEmpty? {x : Option Scalar} {v : Scalar} (h : nonEmpty? x = some v) : x = some v := by
  unfold nonEmpty? at h
  split at h
  · split at h
    · exact h
    · cases h
  · cases h

theorem Literal.exists_datatype_text {l : Literal} (hl : l.IsMade) {form : String} (h : l.form = .ok form)
    {dt : Scalar} (hdt : l.datatype? = some dt) : ∃ name, dt = .text name := by
  have hproper : dt.IsProper := hl.datatype dt (eq_some_of_nonEmpty? hdt)
  obtain ⟨hkind, -, hhidden, -⟩ := form_eq_ok.1 h
  have hcomparable : dt.comparable (.text "") = true := by simpa [hasDatatypeText, hdt] using hkind
  cases dt with
  | text name => exact ⟨name, rfl⟩
  | codePoints ns =>
    obtain ⟨n, hn, hsurrogate⟩ := List.any_eq_true.1 (show ns.any isSurrogate = true from hproper)
    have hmem : n ∈ l.hidden := by
      refine List.mem_append_right _ ?_
      rw [hdt]
      exact List.mem_filter.2 ⟨hn, by rw [hsurrogate, Bool.true_or]⟩
    exact absurd hsurrogate (List.any_eq_false.1 hhidden n hmem)
  | _ => cases hcomparable

theorem normalizeLexical_of_hasSpecialValues {dt : Scalar} (h : hasSpecialValues dt.plain = true) (cs : List Char) :
    normalizeLexical (some dt) cs = cs := by
  have hne : ∀ name : String, hasSpecialValues name = false → some dt ≠ some (.text name) := by
    rintro name hname heq
    rw [Option.some.inj heq, Scalar.plain, hname] at h
    cases h
  rw [normalizeLexical, if_neg (hne _ (by decide)), if_neg (hne _ (by decide))]

/-- A literal with no special value that its form spells in another way, as numbers with an `n` may have. -/
def Literal.IsSpelled (l : Literal) : Prop := Registry.default.forLiteral l = .numeric → 'n' ∉ l.lexical.toList

theorem Literal.isSpelled_of_encode {l : Literal} {fields : List (String × Scalar)}
    (h : (Registry.default.forLiteral l).encode l = .ok fields) : l.IsSpelled := by
  intro hnumeric
  rw [hnumeric] at h
  exact notMem_of_encode h (by decide) (by decide) (by decide)

/-- A literal that is shown as it is spelled: without an `n`, if its datatype has special values. -/
def Literal.KeepsSpelling (l : Literal) : Prop :=
  ∀ dt ∈ l.datatype?, hasSpecialValues dt.plain = true → 'n' ∉ l.lexical.toList

/-- What a form shows is the quoted text of a literal with its tag or its datatype after it. -/
theorem Literal.formChars_eq {l : Literal} (hspelling : l.KeepsSpelling) {chars : List Char}
    (h : l.formChars = .ok chars) : chars = quotedForm (normalizeLexical l.datatype? l.lexical.toList) ++ l.tail := by
  have htags := hasLanguageTag_of_formChars h
  unfold Literal.formChars at h
  unfold Literal.tail
  dsimp only at h
  -- A tag hides the datatype, so it decides first.
  cases hlanguage : l.language? with
  | some v =>
    obtain ⟨tag, rfl, htag⟩ := htags v hlanguage
    rw [hlanguage] at h
    exact (Except.ok.inj ((if_pos htag).symm.trans h)).symm
  | none =>
    rw [hlanguage] at h
    cases hdt : l.datatype? with
    | none =>
      rw [hdt] at h
      rw [List.append_nil]
      exact (Except.ok.inj h).symm
    | some dt =>
      let cs := normalizeLexical (some dt) l.lexical.toList
      have hquoted : (if hasSpecialValues dt.plain then spellSpecial cs (quotedForm cs) else quotedForm cs) =
          quotedForm cs := by
        dsimp only [cs]
        split
        · next hspecial =>
          rw [normalizeLexical_of_hasSpecialValues hspecial, spellSpecial_quotedForm (hspelling dt hdt hspecial)]
        · rfl
      rw [hdt] at h
      have hchars : quotedForm cs ++ '^' :: '^' :: '<' :: dt.plain.toList ++ ['>'] = chars := by
        rw [← hquoted]
        exact Except.ok.inj h
      show chars = quotedForm cs ++ '^' :: '^' :: ('<' :: dt.plain.toList ++ ['>'])
      rw [← hchars, List.append_assoc]
      rfl

theorem Literal.form_toList {l : Literal} (hl : l.IsMade) (hspelled : l.IsSpelled) {form : String}
    (h : l.form = .ok form) :
    form.toList = quotedForm (normalizeLexical l.datatype? l.lexical.toList) ++ l.tail ∧
      ∀ v ∈ l.language?, ∃ tag, v = .text tag ∧ isLanguageTag tag.toList = true := by
  have hspelling : l.KeepsSpelling := by
    intro dt hdt hspecial
    obtain ⟨name, rfl⟩ := l.exists_datatype_text hl h hdt
    exact hspelled (forLiteral_of_hasSpecialValues (eq_some_of_nonEmpty? hdt) hspecial)
  exact ⟨l.formChars_eq hspelling (form_eq_ok.1 h).2.2.2, hasLanguageTag_of_form h⟩

/-- What follows the quotes is read as the tag or the datatype, unless the name of the datatype is one that a form
cannot show. -/
theorem Literal.readTail_tail {l : Literal} (hsingle : l.language? = none ∨ l.datatype? = none)
    (htags : ∀ v ∈ l.language?, ∃ tag, v = .text tag ∧ isLanguageTag tag.toList = true)
    (hnames : ∀ v ∈ l.datatype?, ∃ name, v = .text name ∧ '"' ∉ name.toList ∧ '\\' ∉ name.toList) :
    '"' ∉ l.tail ∧ ∀ text lexical,
      readTail text lexical l.tail = .ok (.literal ⟨lexical, l.language?, l.datatype?⟩) := by
  unfold tail
  cases hlanguage : l.language? with
  | some v =>
    obtain ⟨tag, rfl, htag⟩ := htags v hlanguage
    have hdatatype : l.datatype? = none := hsingle.resolve_left (by simp [hlanguage])
    refine ⟨?_, fun text lexical => ?_⟩
    · have hquote : '"' ∉ tag.toList := fun hmem => absurd (isTagChar_of_isLanguageTag htag hmem) (by decide)
      simp [Scalar.plain, hquote]
    · simp [hdatatype, Scalar.plain, readTail]
  | none =>
    cases hdatatype : l.datatype? with
    | none => exact ⟨by simp, fun text lexical => rfl⟩
    | some v =>
      obtain ⟨name, rfl, hquote, hname⟩ := hnames v hdatatype
      refine ⟨by simp [Scalar.plain, hquote], fun text lexical => ?_⟩
      simp only [Scalar.plain, readTail, reading_iri hname, String.ofList_toList]

/-- A literal with a text, with a tag or with the name of a datatype that leaves white space alone, and
with a lexical form that the codec of its datatype takes. -/
structure Literal.IsOrdinary (l : Literal) : Prop where
  value : ∃ s, l.value = .text s
  language : ∀ v ∈ l.language, ∃ tag, v = .text tag ∧ tag ≠ ""
  datatype : ∀ v ∈ l.datatype, ∃ name, v = .text name ∧ name ≠ "" ∧ isLegalIri name.toList = true ∧
    name ≠ xsd "normalizedString" ∧ name ≠ xsd "token"
  single : l.language = none ∨ l.datatype = none
  valid : ∃ fields, (Registry.default.forLiteral l).encode l = .ok fields

/-- The text after the quotes of a form gives the tag and the datatype back. -/
def TailOf (l : Literal) (tail : List Char) : Prop :=
  '"' ∉ tail ∧ ∀ text lexical, readTail text lexical tail = .ok (.literal ⟨lexical, l.language, l.datatype⟩)

theorem language?_of_isOrdinary {l : Literal} (hl : l.IsOrdinary) : l.language? = l.language := by
  unfold Literal.language?
  cases hlanguage : l.language with
  | none => rfl
  | some v =>
    obtain ⟨tag, rfl, htag⟩ := hl.language v hlanguage
    exact if_pos (decide_eq_true htag)

theorem datatype?_of_isOrdinary {l : Literal} (hl : l.IsOrdinary) : l.datatype? = l.datatype := by
  unfold Literal.datatype?
  cases hdatatype : l.datatype with
  | none => rfl
  | some v =>
    obtain ⟨name, rfl, hname, -⟩ := hl.datatype v hdatatype
    exact if_pos (decide_eq_true hname)

theorem normalizeLexical_of_isOrdinary {l : Literal} (hl : l.IsOrdinary) (cs : List Char) :
    normalizeLexical l.datatype cs = cs := by
  unfold normalizeLexical
  cases hdatatype : l.datatype with
  | none => rfl
  | some v =>
    obtain ⟨name, rfl, -, -, hnormalized, htoken⟩ := hl.datatype v hdatatype
    rw [if_neg (by simpa using hnormalized), if_neg (by simpa using htoken)]

theorem Literal.IsOrdinary.isMade {l : Literal} (hl : l.IsOrdinary) : l.IsMade where
  language v hv := by
    obtain ⟨tag, rfl, -⟩ := hl.language v hv
    trivial
  datatype v hv := by
    obtain ⟨name, rfl, -⟩ := hl.datatype v hv
    trivial
  single := by
    rw [language?_of_isOrdinary hl, datatype?_of_isOrdinary hl]
    exact hl.single

theorem Literal.IsOrdinary.form_eq_ok {l : Literal} (hl : l.IsOrdinary) {form : String}
    (h : l.form = .ok form) :
    ∃ tail, form.toList = quotedForm l.lexical.toList ++ tail ∧ TailOf l tail := by
  obtain ⟨fields, hvalid⟩ := hl.valid
  obtain ⟨hform, htags⟩ := l.form_toList hl.isMade (l.isSpelled_of_encode hvalid) h
  rw [datatype?_of_isOrdinary hl, normalizeLexical_of_isOrdinary hl] at hform
  refine ⟨l.tail, hform, ?_⟩
  have hnames : ∀ v ∈ l.datatype?, ∃ name, v = .text name ∧ '"' ∉ name.toList ∧ '\\' ∉ name.toList := by
    intro v hv
    obtain ⟨name, rfl, -, hlegal, -⟩ := hl.datatype v (eq_some_of_nonEmpty? hv)
    exact ⟨name, rfl, notMem_of_isLegalIri hlegal (by decide), notMem_of_isLegalIri hlegal (by decide)⟩
  have hread := l.readTail_tail hl.isMade.single htags hnames
  rwa [language?_of_isOrdinary hl, datatype?_of_isOrdinary hl] at hread

/-! ## The round trip -/

namespace Term

/-- A term that documents hold. -/
def IsOrdinary : Term → Prop
  | literal l => l.IsOrdinary
  | iri _ | blank _ => True
  | _ => False

/-- No backslash is lost between the quotes of the form. -/
def KeepsBackslashes : Term → Prop
  | literal l => TripleIndex.KeepsBackslashes (l.lexical.toList.contains '\n') l.lexical.toList
  | _ => True

theorem ofForm_quotedForm {form : String} {tail : List Char} (hform : form.toList = quotedForm cs ++ tail)
    (htail : '"' ∉ tail) : ofForm form =
      match unescapeFrom .plain (decodedText (cs.contains '\n') cs) with
      | none => .error .malformedEscape
      | some ns => readTail form (.ofCodePoints ns) tail := by
  have hquote : ∃ rest, form.toList = '"' :: rest := by
    rw [hform]
    unfold quotedForm
    split <;> exact ⟨_, rfl⟩
  obtain ⟨rest, hrest⟩ := hquote
  have hliteral : ofForm form = readLiteral form form.toList := by
    rw [ofForm, hrest]
    rfl
  rw [hliteral, hform]
  exact readLiteral_quotedForm htail cs

theorem ofForm_form_literal {l : Literal} (hl : l.IsOrdinary) {form : String} (h : l.form = .ok form) :
    ofForm form =
      match unescapeFrom .plain (decodedText (l.lexical.toList.contains '\n') l.lexical.toList) with
      | none => .error .malformedEscape
      | some ns => .ok (.literal ⟨.ofCodePoints ns, l.language, l.datatype⟩) := by
  obtain ⟨tail, hform, htail, hread⟩ := hl.form_eq_ok h
  rw [ofForm_quotedForm hform htail]
  cases unescapeFrom .plain (decodedText (l.lexical.toList.contains '\n') l.lexical.toList) with
  | none => rfl
  | some ns => exact hread ..

theorem ofForm_of_reading {form : String} (hform : form.toList = c :: cs) (hc : c ≠ '"') {r : Reading} :
    reading (c :: cs) = .ok r → ofForm form =
      match r with
      | .iri value => .ok (.ofIri value)
      | .blank label =>
        if ['_', ':'].isPrefixOf (c :: cs) then .ok (.blank label) else .error (.notATermText form)
      | .other => .error (.notATermText form) := by
  intro hread
  unfold ofForm
  rw [hform]
  split
  · next heq => cases heq
  · next heq => exact absurd (List.cons.inj heq).1 hc
  · rw [hread]
    cases r <;> rfl

theorem ofForm_form_iri {value form : String} (h : (iri value).form = .ok form) :
    ofForm form = .ok (iri value) := by
  have hlegal : (iri value).form =
      if isLegalIri value.toList then .ok ("<" ++ value ++ ">") else .error (.illegalIri value) := rfl
  rw [hlegal] at h
  split at h
  · next hvalue =>
    cases h
    have hform : ("<" ++ value ++ ">").toList = '<' :: value.toList ++ ['>'] := by simp [String.toList_append]
    have hread := reading_iri (notMem_of_isLegalIri hvalue (show illegalInIri.contains '\\' = true by decide))
    rw [String.ofList_toList] at hread
    exact ofForm_of_reading hform (by decide) hread
  · cases h

theorem ofForm_form_blank {label form : String} (h : (blank label).form = .ok form) :
    ofForm form = .ok (blank label) := by
  cases h
  have hform : ("_:" ++ label).toList = '_' :: ':' :: label.toList := by simp [String.toList_append]
  rw [ofForm_of_reading hform (by decide) reading_blank, String.ofList_toList]
  rfl

/-- The form of a term is read back as the term if and only if no backslash is lost. -/
theorem ofForm_form_iff {t : Term} (ht : t.IsOrdinary) {form : String} (h : t.form = .ok form) :
    ofForm form = .ok t ↔ t.KeepsBackslashes := by
  cases t with
  | literal l =>
    obtain ⟨s, hs⟩ := ht.value
    have hlexical : l.lexical = s := by rw [Literal.lexical, hs]; rfl
    have hvalue : ∀ v, Term.literal ⟨v, l.language, l.datatype⟩ = .literal l ↔ v = .text s := by
      intro v
      rw [← hs]
      exact ⟨fun heq => congrArg Literal.value (Term.literal.inj heq), fun heq => heq ▸ rfl⟩
    rw [ofForm_form_literal ht h, KeepsBackslashes, hlexical]
    constructor
    · intro hread
      split at hread
      · cases hread
      · next ns hns =>
        have hpoints := (hvalue _).1 (Except.ok.inj hread)
        exact (length_of_decode hns).2 (length_of_ofCodePoints hpoints)
    · intro hkeeps
      rw [decode_of_keepsBackslashes hkeeps]
      dsimp only
      rw [ofCodePoints_map_toNat, String.ofList_toList, (hvalue _).2 rfl]
  | iri value => exact iff_of_true (ofForm_form_iri h) trivial
  | blank label => exact iff_of_true (ofForm_form_blank h) trivial
  | _ => exact ht.elim

/-- A backslash at the end of a line and three quotes on the next one. -/
def twoLines : Literal := ⟨.text "C:\\\n\"\"\"", some (.text "en"), none⟩

theorem ofForm_form_twoLines : ∃ form, (literal twoLines).form = .ok form ∧
    (ofForm form = .ok (literal twoLines) ↔ (literal twoLines).KeepsBackslashes) := by
  have hordinary : twoLines.IsOrdinary := by
    refine ⟨⟨_, rfl⟩, ?_, by simp [twoLines], .inr rfl, ⟨_, rfl⟩⟩
    rintro v hv
    cases hv
    exact ⟨"en", rfl, by decide⟩
  exact ⟨_, rfl, ofForm_form_iff (t := literal twoLines) hordinary rfl⟩

/-- A backslash that is read with the three characters after it as an escape. -/
def hexLooking : Literal := .ofText "\\x41"

theorem ofForm_form_hexLooking : hexLooking.IsOrdinary ∧ ∃ form, (literal hexLooking).form = .ok form ∧
    ofForm form = .ok (literal (.ofText "\\A")) ∧ ofForm form ≠ .ok (literal hexLooking) := by
  have hordinary : hexLooking.IsOrdinary :=
    ⟨⟨_, rfl⟩, by simp [hexLooking, Literal.ofText], by simp [hexLooking, Literal.ofText], .inl rfl, ⟨_, rfl⟩⟩
  have hread : ofForm "\"\\\\x41\"" = .ok (literal (.ofText "\\A")) := rfl
  refine ⟨hordinary, _, rfl, hread, fun h => ?_⟩
  have hsame : Literal.ofText "\\A" = hexLooking := Term.literal.inj (Except.ok.inj (hread.symm.trans h))
  exact absurd hsame (by decide)

end Term

end TripleIndex
