import Mathlib.Data.List.Basic
import TripleIndex.Proofs.Stores.Documents

/-!
Where canonical forms end, whatever form comes after them. A form in angle brackets ends at the closing one,
and a blank node label ends where the next form begins, if no form begins inside of it. A literal of one line
ends after its first quote that no backslash stands before, except for its tag, which ends like a label, or
its datatype, which ends like a form in angle brackets.
-/

namespace TripleIndex

/-! ## Where forms begin and end -/

/-- Whether a text begins like a form: of an IRI, of a literal or of a blank node. -/
def beginsForm : List Char → Bool
  | [] => false
  | c :: cs => c = '<' || c = '"' || c = '_' && cs.head? = some ':'

def isPlainLabel (label : List Char) : Bool := label.tails.all fun rest => !beginsForm rest

/-- What a backslash is written before in a literal of one line, an `r` being a carriage return. -/
def escaped : List Char := ['\\', '"', 'r']

/-- A text up to the first quote that is not escaped, and nothing after it. -/
inductive Quoted : List Char → Prop
  | close : Quoted ['"']
  | char {c : Char} {cs : List Char} (hc : c ∉ ['\\', '"']) (h : Quoted cs) : Quoted (c :: cs)
  | escape {c : Char} {cs : List Char} (hc : c ∈ escaped) (h : Quoted cs) : Quoted ('\\' :: c :: cs)

/-- What stands after the quotes of a literal: nothing, a tag or the name of a datatype. -/
inductive Qualifier : List Char → Prop
  | none : Qualifier []
  | tag {tag : List Char} (h : isPlainLabel tag = true) : Qualifier ('@' :: tag)
  | datatype {name : List Char} (h : '>' ∉ name) : Qualifier ('^' :: '^' :: '<' :: name ++ ['>'])

/-- A form of which it is known where it ends, whatever form comes next. -/
inductive SelfDelimiting : List Char → Prop
  | iri {cs : List Char} (h : '>' ∉ cs) : SelfDelimiting ('<' :: cs ++ ['>'])
  | blank {label : List Char} (h : isPlainLabel label = true) : SelfDelimiting ('_' :: ':' :: label)
  | literal {text qualifier : List Char} (htext : Quoted text) (hqualifier : Qualifier qualifier) :
      SelfDelimiting ('"' :: text ++ qualifier)

section Append

variable {c : Char} {cs label label' form form' rest rest' : List Char}

theorem append_inj_of_mark (mark : List Char → Bool) {front front' : List Char}
    (hfront : ∀ c cs, c :: cs <:+ front → mark (c :: cs ++ rest) = false)
    (hfront' : ∀ c cs, c :: cs <:+ front' → mark (c :: cs ++ rest') = false)
    (hrest : mark rest = true) (hrest' : mark rest' = true) (h : front ++ rest = front' ++ rest') :
    front = front' ∧ rest = rest' := by
  rcases List.append_eq_append_iff.1 h with ⟨more, rfl, rfl⟩ | ⟨more, rfl, rfl⟩
  · cases more with
    | nil => simp
    | cons c cs =>
      rw [hfront' c cs (List.suffix_append ..)] at hrest
      cases hrest
  · cases more with
    | nil => simp
    | cons c cs =>
      rw [hfront c cs (List.suffix_append ..)] at hrest'
      cases hrest'

/-- No form begins across the end of a label, as none begins with a colon. -/
theorem beginsForm_append (hrest : beginsForm rest = true) :
    beginsForm (c :: cs ++ rest) = beginsForm (c :: cs) := by
  cases cs with
  | cons d ds => rfl
  | nil =>
    cases rest with
    | nil => cases hrest
    | cons d ds =>
      have hd : d ≠ ':' := by
        rintro rfl
        simp [beginsForm] at hrest
      simp [beginsForm, hd]

theorem label_append_inj (hlabel : isPlainLabel label = true) (hlabel' : isPlainLabel label' = true)
    (hrest : beginsForm rest = true) (hrest' : beginsForm rest' = true)
    (h : label ++ rest = label' ++ rest') : label = label' ∧ rest = rest' := by
  have hfront : ∀ {label rest : List Char}, isPlainLabel label = true → beginsForm rest = true →
      ∀ c cs, c :: cs <:+ label → beginsForm (c :: cs ++ rest) = false := by
    intro label rest hlabel hrest c cs hsuffix
    rw [beginsForm_append hrest]
    simpa using List.all_eq_true.1 hlabel _ ((List.mem_tails ..).2 hsuffix)
  exact append_inj_of_mark beginsForm (hfront hlabel hrest) (hfront hlabel' hrest') hrest hrest' h

theorem iri_append_inj {value value' : List Char} (hvalue : '>' ∉ value) (hvalue' : '>' ∉ value')
    (h : value ++ '>' :: rest = value' ++ '>' :: rest') : value = value' ∧ rest = rest' := by
  have hfront : ∀ {value rest : List Char}, '>' ∉ value →
      ∀ c cs, c :: cs <:+ value → ((c :: cs ++ rest).head? == some '>') = false := by
    intro value rest hvalue c cs hsuffix
    simpa using ne_of_mem_of_not_mem (hsuffix.subset List.mem_cons_self) hvalue
  obtain ⟨hvalues, hrest⟩ := append_inj_of_mark (·.head? == some '>') (hfront hvalue)
    (hfront hvalue') rfl rfl h
  exact ⟨hvalues, (List.cons.inj hrest).2⟩

theorem Quoted.append_inj {text text' : List Char} (htext : Quoted text) (htext' : Quoted text')
    (h : text ++ rest = text' ++ rest') : text = text' ∧ rest = rest' := by
  -- both texts are read side by side: they close, escape or go on together
  induction htext generalizing text' with
  | close =>
    cases htext' with
    | close => exact ⟨rfl, (List.cons.inj h).2⟩
    | char hc => exact absurd (List.cons.inj h).1 (by rintro rfl; simp at hc)
    | escape => cases h
  | char hc _ ih =>
    cases htext' with
    | close => exact absurd (List.cons.inj h).1 (by rintro rfl; simp at hc)
    | char _ htext' =>
      obtain ⟨rfl, hlater⟩ := List.cons.inj h
      obtain ⟨rfl, hrest⟩ := ih htext' hlater
      exact ⟨rfl, hrest⟩
    | escape => exact absurd (List.cons.inj h).1 (by rintro rfl; simp at hc)
  | escape hc _ ih =>
    cases htext' with
    | close => cases h
    | char hc => exact absurd (List.cons.inj h).1 (by rintro rfl; simp at hc)
    | escape _ htext' =>
      obtain ⟨rfl, hlater⟩ := List.cons.inj (List.cons.inj h).2
      obtain ⟨rfl, hrest⟩ := ih htext' hlater
      exact ⟨rfl, hrest⟩

theorem Qualifier.append_inj {qualifier qualifier' : List Char} (hqualifier : Qualifier qualifier)
    (hqualifier' : Qualifier qualifier') (hrest : beginsForm rest = true) (hrest' : beginsForm rest' = true)
    (h : qualifier ++ rest = qualifier' ++ rest') : qualifier = qualifier' ∧ rest = rest' := by
  cases hqualifier with
  | none =>
    cases hqualifier' with
    | none => exact ⟨rfl, h⟩
    | tag => simp [beginsForm, show rest = _ from h] at hrest
    | datatype => simp [beginsForm, show rest = _ from h] at hrest
  | tag htag =>
    cases hqualifier' with
    | none => simp [beginsForm, ← show _ = rest' from h] at hrest'
    | tag htag' =>
      obtain ⟨rfl, hrest⟩ := label_append_inj htag htag' hrest hrest' (List.cons.inj h).2
      exact ⟨rfl, hrest⟩
    | datatype => cases h
  | datatype hname =>
    cases hqualifier' with
    | none => simp [beginsForm, ← show _ = rest' from h] at hrest'
    | tag => cases h
    | datatype hname' =>
      simp only [List.cons_append, List.append_assoc, List.nil_append, List.cons.injEq, true_and] at h
      obtain ⟨rfl, hrest⟩ := iri_append_inj hname hname' h
      exact ⟨rfl, hrest⟩

theorem SelfDelimiting.append_inj (hform : SelfDelimiting form) (hform' : SelfDelimiting form')
    (hrest : beginsForm rest = true) (hrest' : beginsForm rest' = true)
    (h : form ++ rest = form' ++ rest') : form = form' ∧ rest = rest' := by
  cases hform with
  | iri hvalue =>
    cases hform' with
    | iri hvalue' =>
      simp only [List.cons_append, List.append_assoc, List.nil_append, List.cons.injEq, true_and] at h
      obtain ⟨rfl, rfl⟩ := iri_append_inj hvalue hvalue' h
      exact ⟨rfl, rfl⟩
    | blank => cases h
    | literal => cases h
  | blank hlabel =>
    cases hform' with
    | iri => cases h
    | blank hlabel' =>
      simp only [List.cons_append, List.cons.injEq, true_and] at h
      obtain ⟨rfl, hrest⟩ := label_append_inj hlabel hlabel' hrest hrest' h
      exact ⟨rfl, hrest⟩
    | literal => cases h
  | literal htext hqualifier =>
    cases hform' with
    | iri => cases h
    | blank => cases h
    | literal htext' hqualifier' =>
      simp only [List.cons_append, List.append_assoc, List.cons.injEq, true_and] at h
      obtain ⟨rfl, hlater⟩ := htext.append_inj htext' h
      obtain ⟨rfl, hrest⟩ := hqualifier.append_inj hqualifier' hrest hrest' hlater
      exact ⟨rfl, hrest⟩

theorem SelfDelimiting.beginsForm_append (h : SelfDelimiting form) (rest : List Char) :
    beginsForm (form ++ rest) = true := by
  cases h <;> rfl

end Append

/-! ## Quoted texts -/

/-- A word of characters that no quote and no escape is written with. -/
def isWord (word : List Char) : Bool := word.all fun c => !escaped.contains c

section Quoted

variable {old new text : List Char} {c : Char}

theorem notMem_escaped (hword : isWord old = true) (hc : c ∈ old) : c ∉ escaped := by
  simpa using List.all_eq_true.1 hword c hc

theorem Quoted.append_word (hword : isWord new = true) (h : Quoted text) : Quoted (new ++ text) := by
  induction new with
  | nil => exact h
  | cons c word ih =>
    have hc := notMem_escaped hword List.mem_cons_self
    have hrest : isWord word = true := (Bool.and_eq_true_iff.1 hword).2
    exact .char (fun hmem => hc (List.mem_append_left ['r'] hmem)) (ih hrest)

theorem Quoted.of_cons (hc : c ∉ escaped) (h : Quoted (c :: text)) : Quoted text := by
  cases h with
  | close => exact absurd (show '"' ∈ escaped by decide) hc
  | char _ h => exact h
  | escape => exact absurd (show '\\' ∈ escaped by decide) hc

theorem Quoted.of_append_word (hword : isWord old = true) (h : Quoted (old ++ text)) : Quoted text := by
  induction old with
  | nil => exact h
  | cons c word ih =>
    have hrest : isWord word = true := (Bool.and_eq_true_iff.1 hword).2
    exact ih hrest (h.of_cons (notMem_escaped hword List.mem_cons_self))

theorem replaceAll_cons_of_mem_escaped (hword : isWord old = true) (hold : old ≠ []) (hc : c ∈ escaped) :
    replaceAll old new (c :: text) = c :: replaceAll old new text := by
  obtain ⟨d, word, rfl⟩ := List.exists_cons_of_ne_nil hold
  refine replaceAll_cons fun hfront => ?_
  have hd := notMem_escaped hword List.mem_cons_self
  rw [(List.cons_prefix_cons.1 hfront).1] at hd
  exact hd hc

theorem Quoted.replaced (hold : isWord old = true) (hnew : isWord new = true) (hne : old ≠ [])
    (h : Quoted text) : Quoted (replaceAll old new text) := by
  -- a word is taken at once, so the induction is on the length
  induction hlength : text.length using Nat.strong_induction_on generalizing text with
  | _ n ih =>
    by_cases hfront : old <+: text
    · obtain ⟨rest, rfl⟩ := hfront
      have hshort : rest.length < n := by
        have := List.length_pos_iff.2 hne
        rw [← hlength, List.length_append]
        omega
      rw [replaceAll_append_self hne]
      exact (ih rest.length hshort (h.of_append_word hold) rfl).append_word hnew
    · cases h with
      | close =>
        rw [replaceAll_cons hfront]
        exact .close
      | @char _ rest hc h =>
        have hshort : rest.length < n := by
          rw [← hlength, List.length_cons]
          exact Nat.lt_succ_self _
        rw [replaceAll_cons hfront]
        exact .char hc (ih rest.length hshort h rfl)
      | @escape _ rest hc h =>
        have hshort : rest.length < n := by
          rw [← hlength, List.length_cons, List.length_cons]
          omega
        rw [replaceAll_cons hfront, replaceAll_cons_of_mem_escaped hold hne hc]
        exact .escape hc (ih rest.length hshort h rfl)

/-- The spellings of special values change nothing but words between quotes. -/
theorem Quoted.spelled {lexical : List Char} (h : Quoted text) :
    ∃ spelled, spellSpecial lexical ('"' :: text) = '"' :: spelled ∧ Quoted spelled := by
  have hreplaced : ∀ (old new : List Char) {text : List Char}, isWord old = true → isWord new = true →
      old ≠ [] → Quoted text →
      ∃ spelled, replaceAll old new ('"' :: text) = '"' :: spelled ∧ Quoted spelled :=
    fun old new _ hold hnew hne htext =>
      ⟨_, replaceAll_cons_of_mem_escaped hold hne (by simp [escaped]), htext.replaced hold hnew hne⟩
  unfold spellSpecial
  split
  · obtain ⟨spelled, hspelled, htext⟩ :=
      hreplaced "inf".toList "INF".toList (by decide) (by decide) (by decide) h
    rw [spellInfinity, hspelled]
    exact hreplaced _ _ (by decide) (by decide) (by decide) htext
  · exact hreplaced _ _ (by decide) (by decide) (by decide) h
  · exact ⟨text, rfl, h⟩

theorem quoted_escapeSingle (cs : List Char) : Quoted (cs.flatMap escapeSingle ++ ['"']) := by
  induction cs with
  | nil => exact .close
  | cons c cs ih =>
    rw [List.flatMap_cons, List.append_assoc, escapeSingle]
    split
    · exact .escape (by decide) ih
    split
    · exact .escape (by decide) ih
    split
    · exact .escape (by decide) ih
    · next hbackslash hquote _ => exact .char (by simp [hbackslash, hquote]) ih

end Quoted

/-! ## Forms of terms -/

theorem isPlainLabel_of_isLanguageTag {tag : List Char} (h : isLanguageTag tag = true) :
    isPlainLabel tag = true := by
  rw [isPlainLabel, List.all_eq_true]
  intro rest hrest
  cases rest with
  | nil => rfl
  | cons c cs =>
    have hmem : c ∈ tag := ((List.mem_tails ..).1 hrest).subset List.mem_cons_self
    have hc : isTagChar c = true := isTagChar_of_isLanguageTag h hmem
    have hmark : ∀ mark, isTagChar mark = false → c ≠ mark := by
      rintro mark hmark rfl
      rw [hc] at hmark
      cases hmark
    simp [beginsForm, hmark '<' (by decide), hmark '"' (by decide), hmark '_' (by decide)]

namespace Literal

/-- A literal of one line whose datatype, if it is written, stays inside of its angle brackets. -/
def isDelimited (l : Literal) : Bool :=
  !(normalizeLexical l.datatype? l.lexical.toList).contains '\n' &&
    (l.language?.isSome || l.datatype?.all fun dt => !dt.plain.toList.contains '>')

theorem selfDelimiting_formChars {l : Literal} (hl : l.isDelimited = true) {chars : List Char}
    (h : l.formChars = .ok chars) : SelfDelimiting chars := by
  obtain ⟨hline, hdatatype⟩ := Bool.and_eq_true_iff.1 hl
  rw [Bool.not_eq_true'] at hline
  have hquoted : ∀ {cs : List Char}, cs.contains '\n' = false →
      quotedForm cs = '"' :: (cs.flatMap escapeSingle ++ ['"']) := by
    intro cs hcs
    rw [quotedForm, if_neg (by rw [hcs]; exact Bool.false_ne_true)]
    rfl
  unfold formChars at h
  dsimp only at h
  rw [hquoted hline] at h
  split at h
  · split at h
    · next htag =>
      cases h
      exact .literal (quoted_escapeSingle _) (.tag (isPlainLabel_of_isLanguageTag htag))
    · cases h
  · cases h
  · next dt hlanguage hdt =>
    have hname : '>' ∉ dt.plain.toList := by simpa [hlanguage, hdt] using hdatatype
    cases h
    split
    · obtain ⟨spelled, hspelled, htext⟩ := (quoted_escapeSingle _).spelled
      rw [hspelled]
      simpa using SelfDelimiting.literal htext (.datatype hname)
    · simpa using SelfDelimiting.literal (quoted_escapeSingle _) (.datatype hname)
  · cases h
    simpa using SelfDelimiting.literal (quoted_escapeSingle _) .none

theorem selfDelimiting_form {l : Literal} (hl : l.isDelimited = true) {form : String} (h : l.form = .ok form) :
    SelfDelimiting form.toList := by
  obtain ⟨-, -, -, hchars⟩ := form_eq_ok.1 h
  exact selfDelimiting_formChars hl hchars

end Literal

namespace Term

/-- A term whose form tells where it ends. -/
def isDelimited : Term → Bool
  | iri _ | iriOfValue _ | bare _ => true
  | blank label => isPlainLabel label.toList
  | literal l => l.isDelimited
  | var _ => false

theorem selfDelimiting_form {t : Term} (ht : t.isDelimited = true) {form : String} (h : t.form = .ok form) :
    SelfDelimiting form.toList := by
  cases t with
  | var name => cases ht
  | literal l => exact l.selfDelimiting_form ht h
  | bare s => cases h
  | blank label =>
    cases h
    rw [String.toList_append]
    exact .blank ht
  | iri value =>
    rw [Term.form] at h
    split at h
    · next hlegal =>
      cases h
      rw [String.toList_append, String.toList_append]
      exact .iri (notMem_of_isLegalIri hlegal (show illegalInIri.contains '>' = true by decide))
    · cases h
  | iriOfValue v =>
    cases v with
    | codePoints ns =>
      rw [Term.form, formOfIri] at h
      split at h
      · next hlegal =>
        rw [(encodable_eq_ok.1 h).2]
        exact .iri (notMem_of_isLegalIri hlegal (show illegalInIri.contains '>' = true by decide))
      · cases h
    | _ => cases h

theorem beginsForm_form {t : Term} {form : String} (h : t.form = .ok form) (rest : List Char) :
    beginsForm (form.toList ++ rest) = true := by
  cases t with
  | var name => cases h
  | literal l =>
    obtain ⟨cs, hcs⟩ := List.head?_eq_some_iff.1 (l.head?_form h)
    rw [hcs]
    rfl
  | blank label =>
    cases h
    rw [String.toList_append]
    rfl
  | _ => exact (selfDelimiting_form rfl h).beginsForm_append rest

end Term

end TripleIndex
