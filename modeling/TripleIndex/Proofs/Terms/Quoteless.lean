import TripleIndex.Proofs.Stores.Documents
import TripleIndex.Proofs.Terms.Unique

/-!
Literals without quotes in them. Their forms hold no other characters than their texts and their datatypes, except
for the quotes around them. What is no number is such a literal, so its form is that of nothing else and has a tab
only if its text has one.
-/

namespace TripleIndex

variable {cs : List Char} {c : Char}

/-! ## Quoted texts -/

def quoteMark (cs : List Char) : List Char := if cs.contains '\n' then threeQuotes else ['"']

theorem escapeSingle_of_ne (hc : c ≠ '"') : (doubleBackslash c).flatMap escapeReturn = escapeSingle c := by
  unfold doubleBackslash escapeSingle
  split
  · rfl
  · rw [List.flatMap_singleton, escapeReturn]

theorem quotedForm_of_notMem (h : '"' ∉ cs) :
    quotedForm cs = quoteMark cs ++ cs.flatMap escapeSingle ++ quoteMark cs := by
  have hdoubled : '"' ∉ cs.flatMap doubleBackslash := by
    rw [List.mem_flatMap]
    rintro ⟨c, hc, hmem⟩
    unfold doubleBackslash at hmem
    split at hmem
    · simp at hmem
    · exact h (List.mem_singleton.1 hmem ▸ hc)
  have hlast : escapeLastQuote (cs.flatMap doubleBackslash) = cs.flatMap doubleBackslash :=
    escapeLastQuote_of_getLast? fun hlast => hdoubled (List.mem_of_getLast? hlast)
  have hescaped : (cs.flatMap doubleBackslash).flatMap escapeReturn = cs.flatMap escapeSingle := by
    rw [List.flatMap_assoc]
    exact List.flatMap_congr fun c hc => escapeSingle_of_ne (ne_of_mem_of_not_mem hc h)
  unfold quotedForm quoteMark
  cases cs.contains '\n' with
  | true =>
    have hquote : '"' ∈ threeQuotes := by decide
    dsimp only
    rw [if_pos rfl, if_pos rfl, replaceAll_of_notMem hquote hdoubled, hlast, hescaped]
  | false => rfl

theorem mem_of_mem_flatMap_escapeSingle (h : c ∈ cs.flatMap escapeSingle) : c = '\\' ∨ c = 'r' ∨ c ∈ cs := by
  obtain ⟨d, hd, hmem⟩ := List.mem_flatMap.1 h
  unfold escapeSingle at hmem
  split at hmem
  · exact .inl (by simpa using hmem)
  split at hmem
  · next hquote =>
    rcases List.mem_cons.1 hmem with hc | hc
    · exact .inl hc
    · exact .inr (.inr (List.mem_singleton.1 hc ▸ hquote ▸ hd))
  split at hmem
  · rcases List.mem_cons.1 hmem with hc | hc
    · exact .inl hc
    · exact .inr (.inl (List.mem_singleton.1 hc))
  · exact .inr (.inr (List.mem_singleton.1 hmem ▸ hd))

/-! ## Datatypes with a codec -/

theorem Registry.mem_datatypes_of_forLiteral {l : Literal} (h : Registry.default.forLiteral l ≠ .text) :
    ∃ name, l.datatype = some (.text name) ∧ name ∈ (Registry.default.forLiteral l).datatypes := by
  unfold forLiteral at h ⊢
  split at h
  · next name hname =>
    refine ⟨name, hname, ?_⟩
    unfold lookup at h ⊢
    dsimp only at h ⊢
    cases hcodec : default.codecs.lookup name with
    | none =>
      rw [hcodec] at h
      exact absurd rfl h
    | some codec =>
      have hmem : (name, codec) ∈ ofFamily .numeric ++ ofFamily .date ++ ofFamily .boolean :=
        Table.mem_of_lookup hcodec
      have hfamily : ∀ {family : CodecFamily}, (name, codec) ∈ ofFamily family → name ∈ codec.family.datatypes := by
        intro family hmem
        obtain ⟨d, hd, heq⟩ := List.mem_map.1 hmem
        obtain ⟨rfl, rfl⟩ := Prod.mk.inj heq
        exact hd
      rw [List.mem_append, List.mem_append] at hmem
      rcases hmem with (hmem | hmem) | hmem
      · exact hfamily hmem
      · exact hfamily hmem
      · exact hfamily hmem
  · exact absurd rfl h

/-- The names of the datatypes with a codec of their own are not empty and hold neither quotes nor tabs, and
their white space stays as it is. -/
theorem CodecFamily.datatypes_spec (family : CodecFamily) : ∀ name ∈ family.datatypes, name ≠ "" ∧
    '"' ∉ name.toList ∧ '\t' ∉ name.toList ∧ name ≠ xsd "normalizedString" ∧ name ≠ xsd "token" := by
  cases family <;> decide

theorem Literal.datatype?_of_forLiteral {l : Literal} (h : Registry.default.forLiteral l ≠ .text) :
    ∃ name ∈ (Registry.default.forLiteral l).datatypes, l.datatype = some (.text name) ∧
      l.datatype? = some (.text name) ∧ ∀ cs, normalizeLexical l.datatype? cs = cs := by
  obtain ⟨name, hname, hmem⟩ := Registry.mem_datatypes_of_forLiteral h
  obtain ⟨hsome, -, -, hnormalized, htoken⟩ := CodecFamily.datatypes_spec _ name hmem
  have hdatatype : l.datatype? = some (.text name) := by
    rw [Literal.datatype?, hname]
    exact if_pos (decide_eq_true hsome)
  refine ⟨name, hmem, hname, hdatatype, fun cs => ?_⟩
  rw [hdatatype, normalizeLexical, if_neg (by simpa using hnormalized), if_neg (by simpa using htoken)]

namespace Literal.IsNumericNan

variable {a b : Literal} {form : String}

theorem forLiteral_ne (hnan : a.IsNumericNan .default) : Registry.default.forLiteral a ≠ .text := by
  rw [hnan.1]
  decide

theorem notMem (hnan : a.IsNumericNan .default) {c : Char} (hblank : isBlank c = false) (hc : c ∉ "NaN".toList) :
    c ∉ a.lexical.toList := by
  intro hmem
  have htrimmed : isBlank c = true ∨ c ∈ trim a.lexical.toList := mem_trimWhere_or hmem
  rw [hnan.2, hblank] at htrimmed
  exact htrimmed.elim Bool.false_ne_true hc

theorem quote_notMem (hnan : a.IsNumericNan .default) : '"' ∉ a.lexical.toList := hnan.notMem (by decide) (by decide)

theorem isSpelled (hnan : a.IsNumericNan .default) : a.IsSpelled := fun _ => hnan.notMem (by decide) (by decide)

/-- What is no number shares its form with nothing else. -/
theorem eq_of_form (hnan : a.IsNumericNan .default) (ha : a.IsMade) (hb : b.IsMade) (hspelled : b.IsSpelled)
    (hform : a.form = .ok form) (hform' : b.form = .ok form) :
    a.lexical = b.lexical ∧ a.datatype? = b.datatype? ∧ Registry.default.forLiteral b = .numeric := by
  obtain ⟨name, hmem, hname, hdatatype, hkeeps⟩ := datatype?_of_forLiteral hnan.forLiteral_ne
  obtain ⟨-, hdatatypes, hlexical⟩ := Literal.eq_of_form ha hb hnan.isSpelled hspelled hform hform'
  rw [← hdatatypes, hkeeps, hkeeps] at hlexical
  refine ⟨String.toList_inj.1 hlexical, hdatatypes, ?_⟩
  have hnameb : b.datatype = some (.text name) := eq_some_of_nonEmpty? (hdatatypes.symm.trans hdatatype)
  rw [← hnan.1, Registry.forLiteral, Registry.forLiteral, hnameb, hname]

theorem tail_eq {name : String} (hnan : a.IsNumericNan .default) (ha : a.IsMade) (hform : a.form = .ok form)
    (hdatatype : a.datatype? = some (.text name)) : a.tail = '^' :: '^' :: ('<' :: name.toList ++ ['>']) := by
  rcases a.tail_cases ha hnan.isSpelled hform with ⟨tag, -, hnone, -⟩ | ⟨found, -, hfound, htail⟩ | ⟨-, hnone, -⟩
  · cases hnone.symm.trans hdatatype
  · cases hfound.symm.trans hdatatype
    exact htail
  · cases hnone.symm.trans hdatatype

theorem tab_mem (hnan : a.IsNumericNan .default) (ha : a.IsMade) (hform : a.form = .ok form)
    (htab : '\t' ∈ form.toList) : '\t' ∈ a.lexical.toList := by
  obtain ⟨name, hmem, -, hdatatype, hkeeps⟩ := datatype?_of_forLiteral hnan.forLiteral_ne
  have hname : '\t' ∉ name.toList := (CodecFamily.datatypes_spec _ name hmem).2.2.1
  have hmark : '\t' ∉ quoteMark a.lexical.toList := by
    unfold quoteMark
    split <;> decide
  rw [(a.form_toList ha hnan.isSpelled hform).1, hkeeps, quotedForm_of_notMem hnan.quote_notMem,
    hnan.tail_eq ha hform hdatatype] at htab
  have htab : '\t' ∈ a.lexical.toList.flatMap escapeSingle := by simpa [hname, hmark] using htab
  rcases mem_of_mem_flatMap_escapeSingle htab with h | h | h
  · cases h
  · cases h
  · exact h

end Literal.IsNumericNan

end TripleIndex
