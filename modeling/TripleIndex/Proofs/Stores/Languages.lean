import TripleIndex.Proofs.Stores.FindAgain
import TripleIndex.Proofs.Stores.Matches
import TripleIndex.Proofs.Stores.Sets

/-!
Language tags. The language field of a document holds the tag of its literal, or the word that stands for no
tag. That word is no tag that a stored literal can have, but nothing keeps a pattern from asking for it as a
tag; every other tag selects the literals with exactly this tag, and none of them where it is no proper tag.
-/

namespace TripleIndex

/-! ## The language field -/

/-- The characters that a language field can have: those of tags and of the word for no tag. -/
def isLanguageChar (c : Char) : Bool := isTagChar c || c = '_'

theorem languageField_chars {l : Literal} (hl : l.HasLanguageTag) :
    ∃ text, languageField l = .text text ∧ ∀ c ∈ text.toList, isLanguageChar c = true := by
  unfold languageField
  cases hlanguage : l.language? with
  | none =>
    have hword : noLanguage.toList.all isLanguageChar = true := by decide
    exact ⟨noLanguage, rfl, List.all_eq_true.1 hword⟩
  | some v =>
    obtain ⟨tag, rfl, htag⟩ := hl v hlanguage
    refine ⟨tag, rfl, fun c hc => ?_⟩
    rw [isLanguageChar, isTagChar_of_isLanguageTag htag hc, Bool.true_or]

theorem Spread.space_mem {cs ds : List Char} (h : Spread cs ds) (htab : '\t' ∈ cs) : ' ' ∈ ds := by
  induction h with
  | nil => cases htab
  | keep hc _ ih =>
    rcases List.mem_cons.1 htab with heq | hmem
    · exact absurd heq.symm hc
    · exact List.mem_cons_of_mem _ (ih hmem)
  | tab => exact List.mem_append_left _ (List.mem_replicate.2 ⟨Nat.succ_ne_zero _, rfl⟩)

theorem Scalar.text_or_codePoints {v : Scalar} (hv : v.typeName = "str") :
    (∃ s, v = .text s) ∨ ∃ ns, v = .codePoints ns := by
  cases v with
  | text s => exact .inl ⟨s, rfl⟩
  | codePoints ns => exact .inr ⟨ns, rfl⟩
  | int n => exact absurd hv (show "int" ≠ "str" by decide)
  | float x => exact absurd hv (show "float" ≠ "str" by decide)
  | bool b => exact absurd hv (show "bool" ≠ "str" by decide)
  | null => exact absurd hv (show "NoneType" ≠ "str" by decide)

theorem eq_text_of_spread {v : Scalar} (hv : v.typeName = "str") (hproper : v.IsProper) {text : String}
    (h : Spread v.formatted.toList text.toList) (htext : ∀ c ∈ text.toList, isLanguageChar c = true) :
    v = .text text := by
  have htab : '\t' ∉ v.formatted.toList := fun hmem => absurd (htext ' ' (h.space_mem hmem)) (by decide)
  have heq : text = v.formatted := String.toList_inj.1 (h.eq_of_notMem htab)
  rcases Scalar.text_or_codePoints hv with ⟨s, rfl⟩ | ⟨ns, rfl⟩
  · rw [heq, Scalar.formatted_text]
  · -- a surrogate in the string has left its mark in the text
    obtain ⟨n, hn, hsurrogate⟩ := List.any_eq_true.1 (show ns.any isSurrogate = true from hproper)
    have hmark : replacement ∈ text.toList := by
      rw [heq]
      show replacement ∈ (String.ofList (ns.map standIn)).toList
      rw [String.toList_ofList]
      exact List.mem_map.2 ⟨n, hn, if_pos hsurrogate⟩
    exact absurd (htext replacement hmark) (by decide)

/-- The only tag that the language field does not tell from another one is the word for no tag. -/
theorem language?_of_languageField {a l : Literal}
    (hl : ∀ v ∈ l.language?, ∃ tag, v = .text tag ∧ isLanguageTag tag.toList = true)
    (h : languageField a = languageField l) :
    if a.language? = some (.text noLanguage) then l.language? = none else l.language? = a.language? := by
  have hword : l.language? ≠ some (.text noLanguage) := by
    intro hlanguage
    obtain ⟨tag, heq, htag⟩ := hl _ hlanguage
    cases heq
    rw [noLanguage_not_isLanguageTag] at htag
    cases htag
  have hpresent (v : Scalar) (hv : l.language? = some v) : v ≠ .text noLanguage := by
    rintro rfl
    exact hword hv
  unfold languageField at h
  cases hlanguage : l.language? with
  | none =>
    rw [hlanguage] at h
    cases hasked : a.language? with
    | none => rw [if_neg nofun]
    | some v =>
      rw [hasked] at h
      have hsame : v = .text noLanguage := h
      rw [hsame, if_pos rfl]
  | some w =>
    rw [hlanguage] at h
    cases hasked : a.language? with
    | none =>
      rw [hasked] at h
      exact absurd h.symm (hpresent w hlanguage)
    | some v =>
      rw [hasked] at h
      have hsame : v = w := h
      rw [hsame, if_neg fun heq => hpresent w hlanguage (Option.some.inj heq)]

/-! ## The language field of documents -/

section Documents

variable {triple : Pattern} {graph : Option Term} {d : Document} {a : Literal} {c : Clause} {v w : Scalar}

theorem lang_of_document (hd : document .default triple graph = .ok d) (hlang : d.lookup Field.lang = some v) :
    ∃ l, triple.object = .literal l ∧ v = languageField l ∧ l.HasLanguageTag := by
  have hliteral : ∃ l, triple.object = .literal l := by
    obtain ⟨context, subject, predicate, fields, hfields, rfl⟩ := document_eq_ok hd
    rcases objectFields_cases hfields with ⟨l, -, hobject, -, -⟩ | ⟨-, hfields⟩
    · exact ⟨l, hobject⟩
    · rw [hfields] at hlang
      cases hlang
  obtain ⟨l, hobject⟩ := hliteral
  have hencodes := encodes_document hobject hd
  obtain ⟨form, hform, -⟩ := hencodes.form
  exact ⟨l, hobject, Option.some.inj (hlang.symm.trans hencodes.lang), Literal.hasLanguageTag_of_form hform⟩

theorem text_of_document (hd : document .default triple graph = .ok d) (hlang : d.lookup Field.lang = some v) :
    ∃ text, v = .text text ∧ ∀ c ∈ text.toList, isLanguageChar c = true := by
  obtain ⟨l, -, rfl, htags⟩ := lang_of_document hd hlang
  exact languageField_chars htags

theorem lang_of_holds (hd : document .default triple graph = .ok d) (hv : v.typeName = "str")
    (hholds : (Clause.term Field.lang v).holds Schema.triples d = true) : d.lookup Field.lang = some v := by
  rcases Scalar.text_or_codePoints hv with ⟨s, rfl⟩ | ⟨ns, rfl⟩
  · exact (Clause.holds_text_iff rfl).1 hholds
  · have hconvert : Schema.triples.convert Field.lang (.codePoints ns) = .ok (.codePoints ns) :=
      Schema.convert_eq_ok.2 ⟨.text, rfl, rfl⟩
    rw [Clause.holds, hconvert] at hholds
    cases hw : d.lookup Field.lang with
    | none =>
      rw [hw] at hholds
      cases hholds
    | some w =>
      -- no string with surrogates equals a text
      obtain ⟨text, rfl, -⟩ := text_of_document hd hw
      rw [hw] at hholds
      cases hholds

/-- The same holds of a string that has been printed and read back, although its tabs are spaces then and its
surrogates are replacement characters. -/
theorem lang_of_readBack (hd : document .default triple graph = .ok d) (hv : v.typeName = "str")
    (hproper : v.IsProper) (hback : (Clause.term Field.lang v).ReadBack c)
    (hholds : c.holds Schema.triples d = true) : d.lookup Field.lang = some v := by
  cases hback with
  | @term _ _ text _ hspread =>
    have hlang : d.lookup Field.lang = some (.text text) := (Clause.holds_text_iff rfl).1 hholds
    obtain ⟨text', heq, htext⟩ := text_of_document hd hlang
    cases heq
    rw [hlang, eq_text_of_spread hv hproper hspread htext]

end Documents

/-! ## Searches and deletions -/

namespace Store

variable {s : Store} {p : Pattern} {g : Option Term} {q : Place} {d : Document} {a : Literal}

theorem languageClause_mem {graph : Option Term} {f : Filter} (hobject : p.object = .literal a)
    (hf : patternClauses .default p graph = .ok f) : .term Field.lang (languageField a) ∈ f := by
  obtain ⟨subject, predicate, object, context, -, -, hclauses, -, rfl⟩ := patternClauses_eq_ok hf
  rw [hobject] at hclauses
  obtain ⟨c, -, hclauses⟩ := bind_eq_ok.1 (show _ >>= _ = Except.ok object from hclauses)
  cases hclauses
  simp

theorem holds_of_selects_made (hs : s.Reachable .default) (hp : p.IsMade) (hselects : s.Selects p g q)
    (hd : s.index.at? q = some d) : ∃ f, patternClauses .default p (some (s.graph g)) = .ok f ∧
      ∀ c ∈ f, c.holds Schema.triples d = true := by
  have hmaintained := hs.maintained
  obtain ⟨f, selected, hcompile, hselected, hq⟩ := hselects
  rw [hmaintained.registry_eq] at hcompile
  have hclauses := Index.patternClauses_of_compile hcompile
  obtain ⟨d', hd', hholds⟩ := (hmaintained.index.mem_evaluate (isProper_patternClauses hp hclauses) hselected q).1 hq
  cases hd.symm.trans hd'
  exact ⟨f, hclauses, List.all_eq_true.1 hholds⟩

/-- What a pattern with a literal selects, for a search or for a deletion, are literals with exactly its tag. The
one tag that makes an exception is the word for no tag: it selects the literals without a tag. -/
theorem language_selects (hs : s.Reachable .default) (ha : a.IsMade) (hstring : ∀ v ∈ a.language, v.typeName = "str")
    (hobject : p.object = .literal a) (hd : s.index.at? q = some d)
    (hselected : s.Selects p g q ∨ s.Deletes p g q) :
    (∃ triple graph, document .default triple graph = .ok d) ∧
      ∀ triple graph, document .default triple graph = .ok d → ∃ l, triple.object = .literal l ∧
        if a.language? = some (.text noLanguage) then l.language? = none else l.language? = a.language? := by
  have hp : p.IsMade := by
    intro l hl
    cases hobject.symm.trans hl
    exact ha
  have hasked : (languageField a).typeName = "str" ∧ (languageField a).IsProper := by
    unfold languageField
    cases hlanguage : a.language? with
    | none => exact ⟨rfl, trivial⟩
    | some v =>
      have hv := eq_some_of_nonEmpty? hlanguage
      exact ⟨hstring v hv, ha.language v hv⟩
  have hmade : ∃ triple graph, document .default triple graph = .ok d := by
    obtain ⟨filed, hfiled, rfl⟩ := Option.map_eq_some_iff.1 hd
    obtain ⟨triple, graph, hmade⟩ := hs.made _ (Table.mem_of_lookup hfiled)
    exact ⟨triple, some graph, hmade⟩
  have hlang : d.lookup Field.lang = some (languageField a) := by
    obtain ⟨triple, graph, hmade⟩ := hmade
    rcases hselected with hselects | hdeletes
    · obtain ⟨f, hf, hholds⟩ := holds_of_selects_made hs hp hselects hd
      exact lang_of_holds hmade hasked.1 (hholds _ (languageClause_mem hobject hf))
    · obtain ⟨f, read, hf, hback, hholds⟩ := holds_readBack_of_deletes hs hdeletes hd
      obtain ⟨c, hc, hclause⟩ := exists_mem_of_forall₂ hback (languageClause_mem hobject hf)
      exact lang_of_readBack hmade hasked.1 hasked.2 hclause (hholds c hc)
  refine ⟨hmade, fun triple graph hdocument => ?_⟩
  obtain ⟨l, hliteral, hfield, htags⟩ := lang_of_document hdocument hlang
  exact ⟨l, hliteral, language?_of_languageField htags hfield⟩

def tagged (tag : String) : Literal := ⟨.text "a", some (.text tag), none⟩

theorem isMade_tagged (tag : String) : (tagged tag).IsMade where
  language v hv := by
    cases hv
    trivial
  datatype v hv := by cases hv
  single := .inr rfl

theorem language_selects_english : ∃ (s : Store) (q : Place) (d : Document), s.Reachable .default ∧
    s.index.at? q = some d ∧ s.Selects (holding (tagged "en")) none q ∧ s.Deletes (holding (tagged "en")) none q ∧
    (∃ triple graph, document .default triple graph = .ok d) ∧
    ∀ triple graph, document .default triple graph = .ok d → ∃ l, triple.object = .literal l ∧
      l.language? = some (.text "en") := by
  have htakes := takes_of_run (tagged "en") (tagged "en") (by decide +kernel)
  obtain ⟨s, q, d, hs, -, hat, hselects, hdeletes⟩ := htakes
  have hstring : ∀ v ∈ (tagged "en").language, v.typeName = "str" := by
    intro v hv
    cases hv
    rfl
  obtain ⟨hmade, hlanguage⟩ := language_selects hs (isMade_tagged "en") hstring rfl hat (.inl hselects)
  exact ⟨s, q, d, hs, hat, hselects, hdeletes, hmade, hlanguage⟩

/-- The word for no tag as a tag selects, and removes, a literal that has none. -/
theorem language_selects_word : Takes (tagged "__nolang__") (.ofText "a") ∧
    (tagged "__nolang__").language? = some (.text "__nolang__") ∧ (Literal.ofText "a").language? = none :=
  ⟨takes_of_run _ _ (by decide +kernel), rfl, rfl⟩

end Store

end TripleIndex
