import TripleIndex.Proofs.Readers.Refusals
import TripleIndex.Proofs.Terms.Abbreviations
import TripleIndex.Proofs.Terms.Grammar

/-!
What reading a form promises: it gives a term just for a text in the grammar of terms, and whatever else it is given it
refuses with a fault of a value. The promise is broken by the texts that are misread, and by no other ones.
-/

namespace TripleIndex

variable {cs content tail datatype : List Char} {wide : Bool}

/-- The promise that reading a form makes about a text. -/
structure Term.KeepsContract (text : String) : Prop where
  /-- Only what is in the grammar is read. -/
  returned : ∀ t, Term.ofForm text = .ok t → IsTermForm text.toList
  /-- What is not in the grammar is refused as a value. -/
  refused : ¬ IsTermForm text.toList → Rejects (Term.ofForm text)
  /-- There is no fault of another kind. -/
  raised : ∀ e, Term.ofForm text = .error e → e.isValueFault = true

/-- An outcome that is right where just a text in the grammar may have a result. -/
def EndsRightly {α : Type} (wellFormed : Prop) : Except Fault α → Prop
  | .ok _ => wellFormed
  | .error e => e.isValueFault = true

section Outcome

variable {α : Type} {wellFormed : Prop}

@[simp] theorem endsRightly_ok (a : α) : EndsRightly wellFormed (.ok a : Except Fault α) ↔ wellFormed := Iff.rfl

@[simp] theorem endsRightly_error (e : Fault) :
    EndsRightly wellFormed (.error e : Except Fault α) ↔ e.isValueFault = true := Iff.rfl

end Outcome

theorem Term.keepsContract_iff {text : String} :
    Term.KeepsContract text ↔ EndsRightly (IsTermForm text.toList) (Term.ofForm text) := by
  constructor
  · intro h
    cases houtcome : Term.ofForm text with
    | error e => exact h.raised e houtcome
    | ok t => exact h.returned t houtcome
  · intro h
    cases houtcome : Term.ofForm text with
    | error e =>
      rw [houtcome] at h
      exact ⟨fun t ht => by simp [houtcome] at ht, fun _ => ⟨e, houtcome, h⟩,
        fun e' he => by rw [houtcome] at he; cases he; exact h⟩
    | ok t =>
      rw [houtcome] at h
      exact ⟨fun _ _ => h, fun hform => absurd h hform, fun e he => by simp [houtcome] at he⟩

/-! ## Literals -/

/-- A literal that is decoded is misread: what stands between its quotes is not in the grammar, or what follows them is
no tag, is mistaken for an IRI or breaks the reader. -/
inductive Misquoted (wide : Bool) (content : List Char) : List Char → Prop
  | plain : ¬ IsContent wide content → Misquoted wide content []
  | tagged {tag : List Char} : ¬ (IsContent wide content ∧ areSubtags true true tag = true) →
      Misquoted wide content ('@' :: tag)
  | typed {datatype : List Char} : ¬ IsContent wide content → IsIriRef datatype →
      (unescape? (inner datatype)).isSome = true → Misquoted wide content ('^' :: '^' :: datatype)
  | mistaken {datatype : List Char} : MistakenForIri datatype → Misquoted wide content ('^' :: '^' :: datatype)
  | breaks {datatype : List Char} : Breaks datatype → Misquoted wide content ('^' :: '^' :: datatype)

theorem IsIriRef.reading_eq (h : IsIriRef cs) : reading cs = readIri cs := by
  obtain ⟨body, rfl, -⟩ := h
  exact reading_bracketed

theorem misquoted_typed_iff : Misquoted wide content ('^' :: '^' :: datatype) ↔
    (∃ v, reading datatype = .ok (.iri v)) ∧ ¬ (IsContent wide content ∧ IsIriRef datatype) ∨
      ∃ e, reading datatype = .error e ∧ e.isValueFault = false := by
  constructor
  · rintro (_ | _ | ⟨hcontent, hiri, hbody⟩ | hmistaken | hbreaks)
    · rw [hiri.reading_eq, exists_readIri_iff]
      exact .inl ⟨hbody, fun h => hcontent h.1⟩
    · obtain ⟨hread, hiri⟩ := mistakenForIri_iff.1 hmistaken
      exact .inl ⟨hread, fun h => hiri h.2⟩
    · exact .inr (breaks_iff.1 hbreaks)
  · rintro (⟨hread, hform⟩ | hbreaks)
    · by_cases hiri : IsIriRef datatype
      · rw [hiri.reading_eq, exists_readIri_iff] at hread
        exact .typed (fun hcontent => hform ⟨hcontent, hiri⟩) hiri hread
      · exact .mistaken (mistakenForIri_iff.2 ⟨hread, hiri⟩)
    · exact .breaks (breaks_iff.2 hbreaks)

theorem misquoted_plain_iff : Misquoted wide content [] ↔ ¬ IsContent wide content := by
  refine ⟨?_, .plain⟩
  rintro ⟨h⟩
  exact h

theorem misquoted_tagged_iff {tag : List Char} :
    Misquoted wide content ('@' :: tag) ↔ ¬ (IsContent wide content ∧ areSubtags true true tag = true) := by
  refine ⟨?_, .tagged⟩
  rintro (_ | h)
  exact h

theorem endsRightly_readTail (text : String) (lexical : Scalar) :
    EndsRightly (IsContent wide content ∧ IsQualifier tail) (readTail text lexical tail) ↔
      ¬ Misquoted wide content tail := by
  unfold readTail
  split
  · simp [misquoted_plain_iff]
  · next datatype =>
    rw [misquoted_typed_iff]
    cases hread : reading datatype with
    | error e => simp
    | ok r => cases r <;> simp [Fault.isValueFault, Fault.kind]
  · simp [misquoted_tagged_iff]
  · next hnil hcarets hat =>
    refine iff_of_true rfl ?_
    rintro (_ | _ | _ | _ | _)
    · exact hnil rfl
    · exact hat _ rfl
    all_goals exact hcarets _ rfl

/-- A literal that is split at the last of its quotes is what stands between them and what follows. -/
theorem readLiteral_of_split {text : String} (hopening : openingQuotes cs = quotesOf wide)
    (hsplit : splitLast? (quotesOf wide) cs = some (quotesOf wide ++ content, tail)) :
    readLiteral text cs = lexicalOf content >>= fun lexical => readTail text lexical tail := by
  unfold readLiteral
  rw [hopening]
  dsimp only
  rw [hsplit]
  dsimp only
  rw [if_neg (by simp), List.drop_left]
  cases lexicalOf content <;> rfl

theorem readLiteral_unsplit {text : String} (hopening : openingQuotes cs = quotesOf wide)
    (hfront : quotesOf wide <+: cs)
    (hsplit : ∀ content tail, splitLast? (quotesOf wide) cs ≠ some (quotesOf wide ++ content, tail)) :
    readLiteral text cs = .error (.unterminatedLiteral text) := by
  unfold readLiteral
  rw [hopening]
  dsimp only
  split
  · rfl
  · next body rest hbody =>
    refine if_pos (Nat.lt_of_not_le fun hlength => ?_)
    have hwithin : quotesOf wide <+: body := by
      refine List.prefix_of_prefix_length_le hfront ?_ hlength
      rw [append_of_splitLast? hbody, List.append_assoc]
      exact List.prefix_append ..
    obtain ⟨content, rfl⟩ := hwithin
    exact hsplit content rest hbody

/-! ## All texts -/

/-- The texts with which the promise is broken: one that is mistaken for an IRI or breaks the reader, a blank node whose
label is none, and a literal that is decoded although it or what follows it is not in the grammar. -/
inductive Misread : List Char → Prop
  | mistaken {cs : List Char} : cs.head? ≠ some '"' → MistakenForIri cs → Misread cs
  | breaks {cs : List Char} : cs.head? ≠ some '"' → Breaks cs → Misread cs
  | label {label : List Char} : isLabel label = false → Misread ('_' :: ':' :: label)
  | literal {cs content tail : List Char} {wide : Bool} : openingQuotes ('"' :: cs) = quotesOf wide →
      splitLast? (quotesOf wide) ('"' :: cs) = some (quotesOf wide ++ content, tail) →
      (unescapeLexical? content).isSome = true → Misquoted wide content tail → Misread ('"' :: cs)

theorem misread_iff_of_head? (h : cs.head? ≠ some '"') : Misread cs ↔
    ((∃ v, reading cs = .ok (.iri v)) ∧ ¬ IsIriRef cs ∨ ∃ e, reading cs = .error e ∧ e.isValueFault = false) ∨
      ∃ label, cs = '_' :: ':' :: label ∧ isLabel label = false := by
  rw [← mistakenForIri_iff, ← breaks_iff]
  constructor
  · rintro (⟨-, hmistaken⟩ | ⟨-, hbreaks⟩ | hlabel | _)
    · exact .inl (.inl hmistaken)
    · exact .inl (.inr hbreaks)
    · exact .inr ⟨_, rfl, hlabel⟩
    · exact absurd rfl h
  · rintro ((hmistaken | hbreaks) | ⟨label, rfl, hlabel⟩)
    · exact .mistaken h hmistaken
    · exact .breaks h hbreaks
    · exact .label hlabel

theorem Misread.exists_split (h : Misread ('"' :: cs)) : ∃ wide content tail,
    openingQuotes ('"' :: cs) = quotesOf wide ∧
      splitLast? (quotesOf wide) ('"' :: cs) = some (quotesOf wide ++ content, tail) ∧
      (unescapeLexical? content).isSome = true ∧ Misquoted wide content tail := by
  cases h with
  | mistaken hhead => exact absurd rfl hhead
  | breaks hhead => exact absurd rfl hhead
  | literal hopening hsplit hdecodes hmisquoted => exact ⟨_, _, _, hopening, hsplit, hdecodes, hmisquoted⟩

theorem misread_iff_of_split (hopening : openingQuotes ('"' :: cs) = quotesOf wide)
    (hsplit : splitLast? (quotesOf wide) ('"' :: cs) = some (quotesOf wide ++ content, tail)) :
    Misread ('"' :: cs) ↔ (unescapeLexical? content).isSome = true ∧ Misquoted wide content tail := by
  constructor
  · intro h
    obtain ⟨_, _, _, hopens, hsplits, hdecodes, hmisquoted⟩ := h.exists_split
    cases quotesOf_injective (hopening.symm.trans hopens)
    rw [hsplit] at hsplits
    simp only [Option.some.injEq, Prod.mk.injEq, List.append_cancel_left_eq] at hsplits
    obtain ⟨rfl, rfl⟩ := hsplits
    exact ⟨hdecodes, hmisquoted⟩
  · rintro ⟨hdecodes, hmisquoted⟩
    exact .literal hopening hsplit hdecodes hmisquoted

theorem exists_quotesOf (cs : List Char) :
    ∃ wide, openingQuotes ('"' :: cs) = quotesOf wide ∧ quotesOf wide <+: '"' :: cs := by
  unfold openingQuotes
  split
  · next hfront => exact ⟨true, rfl, List.isPrefixOf_iff_prefix.1 hfront⟩
  · exact ⟨false, rfl, cs, rfl⟩

/-- Reading a literal keeps the promise unless the literal is misread. -/
theorem endsRightly_readLiteral (text : String) (cs : List Char) :
    EndsRightly (IsTermForm ('"' :: cs)) (readLiteral text ('"' :: cs)) ↔ ¬ Misread ('"' :: cs) := by
  obtain ⟨wide, hopening, hfront⟩ := exists_quotesOf cs
  by_cases hsplit : ∃ content tail, splitLast? (quotesOf wide) ('"' :: cs) = some (quotesOf wide ++ content, tail)
  · obtain ⟨content, tail, hsplit⟩ := hsplit
    rw [readLiteral_of_split hopening hsplit, misread_iff_of_split hopening hsplit,
      isTermForm_iff_of_split hopening hsplit, lexicalOf]
    cases unescapeLexical? content with
    | none => simp [bind, Except.bind, Fault.isValueFault, Fault.kind]
    | some lexical =>
      rw [ok_bind, endsRightly_readTail text lexical]
      simp
  · rw [readLiteral_unsplit hopening hfront fun content tail h => hsplit ⟨content, tail, h⟩]
    refine iff_of_true rfl fun h => ?_
    obtain ⟨_, content, tail, hopens, hsplits, -⟩ := h.exists_split
    cases quotesOf_injective (hopening.symm.trans hopens)
    exact hsplit ⟨content, tail, hsplits⟩

/-- Reading what is no literal keeps the promise unless it is misread. -/
theorem endsRightly_readName {text : String} (h : text.toList.head? ≠ some '"') :
    EndsRightly (IsTermForm text.toList) (Term.ofForm text) ↔ ¬ Misread text.toList := by
  rw [misread_iff_of_head? h, isTermForm_iff_of_head? h]
  unfold Term.ofForm
  split
  · next hempty =>
    rw [hempty]
    have hread : reading [] = .ok .other := rfl
    exact iff_of_true rfl (by simp [hread])
  · next hquote => exact absurd (by rw [hquote]; rfl) h
  · by_cases hblank : ∃ label, text.toList = '_' :: ':' :: label
    · obtain ⟨label, hlabel⟩ := hblank
      have hiri : ¬ IsIriRef ('_' :: ':' :: label) := fun h => absurd h.head? (by simp)
      simp [hlabel, reading_blank, hiri]
    · have hlabel : ∀ label, text.toList ≠ '_' :: ':' :: label := fun label h => hblank ⟨label, h⟩
      have hfront : ['_', ':'].isPrefixOf text.toList = false := by
        refine Bool.eq_false_iff.2 fun hfront => ?_
        obtain ⟨label, h⟩ := List.isPrefixOf_iff_prefix.1 hfront
        exact hlabel label h.symm
      cases reading text.toList with
      | error e => simp [hlabel]
      | ok r => cases r <;> simp [hlabel, hfront, Fault.isValueFault, Fault.kind]

/-- Reading a form keeps its promise for all texts but those that are misread. -/
theorem Term.keepsContract_iff_not_misread (text : String) : Term.KeepsContract text ↔ ¬ Misread text.toList := by
  rw [keepsContract_iff]
  by_cases hhead : text.toList.head? = some '"'
  · obtain ⟨cs, hcs⟩ := List.head?_eq_some_iff.1 hhead
    rw [Term.ofForm, hcs]
    exact endsRightly_readLiteral text cs
  · exact endsRightly_readName hhead

/-- The abbreviation of a known name is read, and that of an unknown one ends with a fault of another kind. -/
theorem Term.not_keepsContract_abbreviated :
    (¬ IsTermForm "foaf:name".toList ∧ Term.ofForm "foaf:name" = .ok (.iri "http://xmlns.com/foaf/0.1/name")) ∧
      ¬ IsTermForm "ex:a".toList ∧ Term.ofForm "ex:a" = .error (.unknownKey "ex") ∧
      (Fault.unknownKey "ex").isValueFault = false := by
  have hname : ∀ c : Char, ∀ cs, c ∉ ['<', '"', '_'] → ¬ IsTermForm (c :: cs) := by
    intro c cs hc hform
    simp only [List.mem_cons, List.not_mem_nil, or_false, not_or] at hc
    rcases (isTermForm_iff_of_head? (by simpa using hc.2.1)).1 hform with hiri | ⟨label, hlabel, -⟩
    · exact hc.1 (by simpa using hiri.head?)
    · exact hc.2.2 (List.cons.inj hlabel).1
  exact ⟨⟨hname 'f' _ (by decide), rfl⟩, hname 'e' _ (by decide), rfl, rfl⟩

end TripleIndex
