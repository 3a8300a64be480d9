import TripleIndex.Proofs.Terms.Reading

/-!
The grammar of N-Triples terms: an IRI in angle brackets, a blank node label after `_:`, a literal between
quotes with nothing, a language tag or a datatype after them. Three quotes may stand for one, which is how a literal
with newlines is written. A quote stands in a literal only as its quotes or between them, so a literal is in its
grammar in one way.
-/

namespace TripleIndex

variable {cs tail : List Char} {c : Char}

/-! ## Names -/

/-- A character by its hexadecimal number, of four digits or of eight. -/
def IsUnicodeEscape (cs : List Char) : Prop :=
  ∃ digits : List Char, (∀ c ∈ digits, (hexValue? c).isSome = true) ∧
    (cs = '\\' :: 'u' :: digits ∧ digits.length = 4 ∨ cs = '\\' :: 'U' :: digits ∧ digits.length = 8)

/-- What stands between the angle brackets of an IRI. -/
inductive IsIriBody : List Char → Prop
  | nil : IsIriBody []
  | char {c : Char} {cs : List Char} : 0x20 < c.toNat → illegalInIri.contains c = false →
      IsIriBody cs → IsIriBody (c :: cs)
  | escape {e cs : List Char} : IsUnicodeEscape e → IsIriBody cs → IsIriBody (e ++ cs)

def IsIriRef (cs : List Char) : Prop := ∃ body, cs = '<' :: body ++ ['>'] ∧ IsIriBody body

/-- The characters of letters beyond ASCII, as bounds of code points. -/
def letterRanges : List (Nat × Nat) :=
  [(0xC0, 0xD6), (0xD8, 0xF6), (0xF8, 0x2FF), (0x370, 0x37D), (0x37F, 0x1FFF), (0x200C, 0x200D),
    (0x2070, 0x218F), (0x2C00, 0x2FEF), (0x3001, 0xD7FF), (0xF900, 0xFDCF), (0xFDF0, 0xFFFD),
    (0x10000, 0xEFFFF)]

def startsLabel (c : Char) : Bool :=
  c.isAlphanum || c = '_' || c = ':' || letterRanges.any fun (low, high) => low ≤ c.toNat && c.toNat ≤ high

def endsLabel (c : Char) : Bool :=
  startsLabel c || c = '-' || c.toNat = 0xB7 || (0x300 ≤ c.toNat && c.toNat ≤ 0x36F) ||
    (0x203F ≤ c.toNat && c.toNat ≤ 0x2040)

/-- The label of a blank node, which has points in its midst only. -/
def isLabel (cs : List Char) : Bool :=
  cs.head?.any startsLabel && cs.getLast?.any endsLabel && cs.all fun c => endsLabel c || c = '.'

/-! ## Literals -/

/-- The letters and signs that may follow a backslash. -/
def escapable : List Char := "tbnrf\"'\\".toList

/-- What stands between the quotes of a literal. Between three quotes lines may end, and a quote or two may stand by
themselves unless they come last. -/
inductive IsContent (wide : Bool) : List Char → Prop
  | nil : IsContent wide []
  | char {c : Char} {cs : List Char} : c ≠ '"' → c ≠ '\\' → (wide = false → c ≠ '\n' ∧ c ≠ '\r') →
      IsContent wide cs → IsContent wide (c :: cs)
  | sign {c : Char} {cs : List Char} : c ∈ escapable → IsContent wide cs → IsContent wide ('\\' :: c :: cs)
  | escape {e cs : List Char} : IsUnicodeEscape e → IsContent wide cs → IsContent wide (e ++ cs)
  | quote {cs : List Char} : wide = true → cs ≠ [] → ¬ ['"', '"'] <+: cs → IsContent wide cs →
      IsContent wide ('"' :: cs)

/-- What may follow the closing quotes of a literal. -/
inductive IsQualifier : List Char → Prop
  | none : IsQualifier []
  | language {tag : List Char} : areSubtags true true tag = true → IsQualifier ('@' :: tag)
  | datatype {iri : List Char} : IsIriRef iri → IsQualifier ('^' :: '^' :: iri)

@[simp] theorem isQualifier_nil : IsQualifier [] := .none

@[simp] theorem isQualifier_language_iff {tag : List Char} :
    IsQualifier ('@' :: tag) ↔ areSubtags true true tag = true := by
  refine ⟨?_, .language⟩
  rintro (_ | htag)
  exact htag

@[simp] theorem isQualifier_datatype_iff {iri : List Char} : IsQualifier ('^' :: '^' :: iri) ↔ IsIriRef iri := by
  refine ⟨?_, .datatype⟩
  rintro (_ | _ | hiri)
  exact hiri

def quotesOf (wide : Bool) : List Char := if wide then threeQuotes else ['"']

/-- A single term of the grammar. -/
inductive IsTermForm : List Char → Prop
  | iri {cs : List Char} : IsIriRef cs → IsTermForm cs
  | blank {label : List Char} : isLabel label = true → IsTermForm ('_' :: ':' :: label)
  | literal {wide : Bool} {content tail : List Char} : IsContent wide content → IsQualifier tail →
      IsTermForm (quotesOf wide ++ content ++ quotesOf wide ++ tail)

/-! ## Where quotes stand -/

theorem IsUnicodeEscape.quote_notMem (h : IsUnicodeEscape cs) : '"' ∉ cs := by
  obtain ⟨digits, hdigits, ⟨rfl, -⟩ | ⟨rfl, -⟩⟩ := h
  all_goals
    intro hmem
    have hmem : '"' ∈ digits := by simpa using hmem
    exact absurd (hdigits '"' hmem) (by decide)

theorem IsUnicodeEscape.head? (h : IsUnicodeEscape cs) : cs.head? = some '\\' := by
  obtain ⟨digits, -, ⟨rfl, -⟩ | ⟨rfl, -⟩⟩ := h <;> rfl

theorem IsIriBody.quote_notMem (h : IsIriBody cs) : '"' ∉ cs := by
  induction h with
  | nil => exact List.not_mem_nil
  | char _ hlegal _ ih =>
    refine List.not_mem_cons_of_ne_of_not_mem ?_ ih
    rintro rfl
    exact absurd hlegal (by decide)
  | escape he _ ih => exact fun hmem => (List.mem_append.1 hmem).elim he.quote_notMem ih

theorem IsIriRef.quote_notMem (h : IsIriRef cs) : '"' ∉ cs := by
  obtain ⟨body, rfl, hbody⟩ := h
  simpa using hbody.quote_notMem

theorem quote_notMem_of_areSubtags {primary fresh : Bool} (h : areSubtags primary fresh cs = true) : '"' ∉ cs := by
  induction cs generalizing primary fresh with
  | nil => exact List.not_mem_nil
  | cons c cs ih =>
    rw [areSubtags] at h
    split at h
    · next hc =>
      subst hc
      exact List.not_mem_cons_of_ne_of_not_mem (by decide) (ih (Bool.and_eq_true_iff.1 h).2)
    · obtain ⟨hc, h⟩ := Bool.and_eq_true_iff.1 h
      refine List.not_mem_cons_of_ne_of_not_mem ?_ (ih h)
      rintro rfl
      cases primary <;> exact absurd hc (by decide)

theorem IsQualifier.quote_notMem (h : IsQualifier tail) : '"' ∉ tail := by
  cases h with
  | none => exact List.not_mem_nil
  | language htag => simpa using quote_notMem_of_areSubtags htag
  | datatype hiri => simpa using hiri.quote_notMem

/-- A single quote ends what it opens. -/
theorem IsContent.head?_ne (h : IsContent false cs) : cs.head? ≠ some '"' := by
  cases h with
  | nil => exact nofun
  | char hquote => simpa using hquote
  | sign => simp
  | escape he =>
    rw [List.head?_append, he.head?]
    simp
  | quote hwide => cases hwide

/-! ## Terms in one way -/

theorem head?_quotesOf_append (wide : Bool) (cs : List Char) : (quotesOf wide ++ cs).head? = some '"' := by
  cases wide <;> rfl

theorem IsIriRef.head? (h : IsIriRef cs) : cs.head? = some '<' := by
  obtain ⟨body, rfl, -⟩ := h
  rfl

theorem isTermForm_iff_of_head? (h : cs.head? ≠ some '"') :
    IsTermForm cs ↔ IsIriRef cs ∨ ∃ label, cs = '_' :: ':' :: label ∧ isLabel label = true := by
  constructor
  · rintro (hiri | hlabel | _)
    · exact .inl hiri
    · exact .inr ⟨_, rfl, hlabel⟩
    · simp only [List.append_assoc] at h
      exact absurd (head?_quotesOf_append ..) h
  · rintro (hiri | ⟨label, rfl, hlabel⟩)
    · exact .iri hiri
    · exact .blank hlabel

theorem quotesOf_injective {wide narrow : Bool} (h : quotesOf wide = quotesOf narrow) : wide = narrow := by
  revert h
  revert wide narrow
  decide

theorem openingQuotes_of_isContent {wide : Bool} {content : List Char} (hcontent : IsContent wide content)
    (htail : '"' ∉ tail) : openingQuotes (quotesOf wide ++ content ++ quotesOf wide ++ tail) = quotesOf wide := by
  cases wide with
  | true =>
    refine if_pos (List.isPrefixOf_iff_prefix.2 ?_)
    simp only [List.append_assoc]
    exact List.prefix_append ..
  | false =>
    refine if_neg fun hfront => ?_
    have hfront := (List.cons_prefix_cons.1 (List.isPrefixOf_iff_prefix.1 hfront)).2
    cases content with
    | nil =>
      obtain ⟨rest, hrest⟩ := (List.cons_prefix_cons.1 hfront).2
      have hmem : '"' ∈ tail := by
        rw [show tail = '"' :: rest from hrest.symm]
        exact List.mem_cons_self
      exact htail hmem
    | cons c content =>
      refine hcontent.head?_ne ?_
      rw [(List.cons_prefix_cons.1 hfront).1]
      rfl

theorem splitLast?_quotesOf {wide : Bool} (before : List Char) (htail : '"' ∉ tail) :
    splitLast? (quotesOf wide) (before ++ quotesOf wide ++ tail) = some (before, tail) := by
  have hcount : tail.count '"' = 0 := List.count_eq_zero.2 htail
  cases wide <;>
  · refine splitLast?_append fun hwithin => ?_
    have := hwithin.sublist.count_le '"'
    simp [hcount] at this

/-- A literal that is split at the last of its quotes is in the grammar if its parts are. -/
theorem isTermForm_iff_of_split {wide : Bool} {content : List Char} (hopening : openingQuotes cs = quotesOf wide)
    (hsplit : splitLast? (quotesOf wide) cs = some (quotesOf wide ++ content, tail)) :
    IsTermForm cs ↔ IsContent wide content ∧ IsQualifier tail := by
  have heq := append_of_splitLast? hsplit
  constructor
  · intro hform
    have hhead : cs.head? = some '"' := by
      rw [heq]
      simp only [List.append_assoc]
      exact head?_quotesOf_append ..
    cases hform with
    | iri hiri =>
      rw [hiri.head?] at hhead
      exact absurd hhead (by decide)
    | blank => exact absurd hhead (by simp)
    | literal hcontent hqualifier =>
      have hsame := openingQuotes_of_isContent hcontent hqualifier.quote_notMem
      rw [hopening] at hsame
      cases quotesOf_injective hsame
      rw [splitLast?_quotesOf _ hqualifier.quote_notMem] at hsplit
      simp only [Option.some.injEq, Prod.mk.injEq, List.append_cancel_left_eq] at hsplit
      obtain ⟨rfl, rfl⟩ := hsplit
      exact ⟨hcontent, hqualifier⟩
  · rintro ⟨hcontent, hqualifier⟩
    rw [heq]
    exact .literal hcontent hqualifier

/-! ## What is written -/

theorem isContent_escapeSingle (h : '\n' ∉ cs) : IsContent false (cs.flatMap escapeSingle) := by
  induction cs with
  | nil => exact .nil
  | cons c cs ih =>
    rw [List.mem_cons, not_or] at h
    have ih := ih h.2
    rw [List.flatMap_cons, escapeSingle]
    split
    · exact .sign (by decide) ih
    split
    · exact .sign (by decide) ih
    split
    · exact .sign (by decide) ih
    · next hbackslash hquote hreturn => exact .char hquote hbackslash (fun _ => ⟨Ne.symm h.1, hreturn⟩) ih

/-- A literal on one line is written in its grammar. -/
theorem isTermForm_quotedForm (h : '\n' ∉ cs) (htail : IsQualifier tail) : IsTermForm (quotedForm cs ++ tail) := by
  have hform := IsTermForm.literal (isContent_escapeSingle h) htail
  rw [quotedForm, if_neg (by simpa using h)]
  exact hform

end TripleIndex
