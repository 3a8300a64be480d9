import TripleIndex.Proofs.Join.Texts
import TripleIndex.Proofs.Numbers.Shapes
import TripleIndex.Proofs.Terms.Grammar

/-!
Reading a text that is no literal. It may be any abbreviation of a term, and then it is read as an IRI or fails
as a name that is not known does. Brackets of an IRI are taken off without a look at them, and brackets of a graph
fail as a store that is not there does. These are the texts that are mistaken for an IRI and those that break the
reader with another fault than one of a value, and they are all of them.
-/

namespace TripleIndex

variable {cs opened rest lead datatype : List Char} {c : Char} {m n : Nat}

/-! ## Reading, step by step -/

theorem length_inner_lt : (inner (c :: cs)).length < (c :: cs).length := by
  simp only [inner, List.drop_succ_cons, List.drop_zero, List.length_dropLast, List.length_cons]
  omega

theorem length_datatype_lt {mark : List Char} (hmark : 0 < mark.length)
    (hquotes : splitLast? mark cs = some (opened, rest))
    (hcarets : splitLast? ['^', '^'] rest = some (lead, datatype)) : datatype.length < cs.length := by
  rw [append_of_splitLast? hquotes, append_of_splitLast? hcarets]
  simp only [List.length_append]
  omega

theorem length_openingQuotes : 0 < (openingQuotes cs).length := by
  unfold openingQuotes
  split <;> decide

/-- Steps beyond the length of a text change nothing. -/
theorem readForm_congr (hm : cs.length ≤ m) (hn : cs.length ≤ n) : readForm m cs = readForm n cs := by
  -- what is read by a further step is shorter than the text, so enough steps are left on both sides
  induction m generalizing n cs with
  | zero =>
    cases List.length_eq_zero_iff.1 (Nat.le_zero.1 hm)
    cases n <;> rfl
  | succ m ih =>
    cases cs with
    | nil => cases n <;> rfl
    | cons c cs =>
      obtain ⟨n, rfl⟩ := Nat.exists_eq_add_of_le' (Nat.le_trans (Nat.le_add_left 1 cs.length) hn)
      have hshorter : ∀ ds : List Char, ds.length < (c :: cs).length → readForm m ds = readForm n ds :=
        fun ds hlength => ih (Nat.le_of_lt_succ (Nat.lt_of_lt_of_le hlength hm))
          (Nat.le_of_lt_succ (Nat.lt_of_lt_of_le hlength hn))
      rw [readForm, readForm, hshorter _ length_inner_lt]
      split
      · rfl
      split
      · dsimp only
        split
        · rfl
        · next hquotes =>
          split
          · next hcarets => rw [hshorter _ (length_datatype_lt length_openingQuotes hquotes hcarets)]
          · rfl
      · rfl

theorem readForm_eq_reading (h : cs.length ≤ n) : readForm n cs = reading cs := readForm_congr h le_rfl

/-- A text is read by its first character, and what it holds is read in the same way. -/
theorem reading_cons (c : Char) (cs : List Char) :
    reading (c :: cs) =
      if c = '<' then readIri (c :: cs)
      else if c = '"' then
        match splitLast? (openingQuotes (c :: cs)) (c :: cs) with
        | none => .ok .other
        | some (opened, rest) =>
          match splitLast? ['^', '^'] rest with
          | some (_, datatype) =>
            match reading datatype with
            | .error e => .error e
            | .ok _ => readStrayLiteral (opened.drop (openingQuotes (c :: cs)).length) []
          | none => readStrayLiteral (opened.drop (openingQuotes (c :: cs)).length) rest
      else if c :: cs = "true".toList || c :: cs = "false".toList then .ok .other
      else if looksNumeric (c :: cs) then readNumeric (c :: cs)
      else if c = '\x7b' || c = '[' then
        match reading (inner (c :: cs)) with
        | .error e => .error e
        | .ok _ => .error .nestedGraph
      else if ['_', ':'].isPrefixOf (c :: cs) then .ok (.blank (String.ofList ((c :: cs).drop 2)))
      else
        match splitFirst? ':' (c :: cs) with
        | some (short, rest) => readAbbreviated short rest
        | none => .ok (.blank (String.ofList (c :: cs))) := by
  have hinner : readForm cs.length (inner (c :: cs)) = reading (inner (c :: cs)) :=
    readForm_eq_reading (Nat.le_of_lt_succ length_inner_lt)
  rw [reading, List.length_cons, readForm, hinner]
  split
  · rfl
  split
  · dsimp only
    cases hquotes : splitLast? (openingQuotes (c :: cs)) (c :: cs) with
    | none => rfl
    | some parts =>
      dsimp only
      cases hcarets : splitLast? ['^', '^'] parts.2 with
      | none => rfl
      | some typed =>
        have hdatatype : readForm cs.length typed.2 = reading typed.2 :=
          readForm_eq_reading (Nat.le_of_lt_succ (length_datatype_lt length_openingQuotes hquotes hcarets))
        cases hread : reading typed.2 <;> simp only [hdatatype, hread]
  · rfl

/-! ## Kinds of texts -/

theorem looksNumeric_of_mem (hc : c ∈ cs) (hlower : c.toLower = c) (hmarks : c ∉ ['.', '-', 'e'])
    (hnumeral : isNumeral c = false) : looksNumeric cs = false := by
  simp only [List.mem_cons, List.not_mem_nil, or_false, not_or] at hmarks
  have hmem : c ∈ (((lowerAscii cs).erase '.').erase '-').erase 'e' := by
    refine (List.mem_erase_of_ne hmarks.2.2).2 ((List.mem_erase_of_ne hmarks.2.1).2 ?_)
    refine (List.mem_erase_of_ne hmarks.1).2 (List.mem_map.2 ⟨c, hc, hlower⟩)
  rw [looksNumeric, Bool.and_eq_false_iff]
  refine .inr (List.all_eq_false.2 ⟨c, hmem, ?_⟩)
  rw [hnumeral]
  exact Bool.false_ne_true

/-- What stands before the colon of an abbreviated name. -/
structure IsShortName (short : List Char) : Prop where
  colon : ':' ∉ short
  blank : short ≠ ['_']
  opening : ∀ c ∈ short.head?, c ∉ ['<', '"', '\x7b', '[']

theorem reading_bracketed : reading ('<' :: cs) = readIri ('<' :: cs) := by
  rw [reading_cons, if_pos rfl]

theorem reading_typed (hquotes : splitLast? (openingQuotes ('"' :: cs)) ('"' :: cs) = some (opened, rest))
    (hcarets : splitLast? ['^', '^'] rest = some (lead, datatype)) {e : Fault} (h : reading datatype = .error e) :
    reading ('"' :: cs) = .error e := by
  rw [reading_cons, if_neg (by decide), if_pos rfl, hquotes]
  dsimp only
  rw [hcarets]
  dsimp only
  rw [h]

theorem reading_graph (hc : c = '\x7b' ∨ c = '[') :
    reading (c :: cs) = reading (inner (c :: cs)) >>= fun _ => .error .nestedGraph := by
  have hnumeric : looksNumeric (c :: cs) = false := by
    rcases hc with rfl | rfl <;> exact looksNumeric_of_mem List.mem_cons_self (by decide) (by decide) (by decide)
  rw [reading_cons, hnumeric]
  rcases hc with rfl | rfl <;> cases reading (inner _) <;> simp [bind, Except.bind]

theorem IsShortName.not_blank {short : List Char} (h : IsShortName short) (rest : List Char) :
    ¬ ['_', ':'] <+: short ++ ':' :: rest := by
  intro hfront
  match short, h with
  | [], _ => exact absurd (List.cons_prefix_cons.1 hfront).1 (by decide)
  | [c], h => exact h.blank (by rw [← (List.cons_prefix_cons.1 hfront).1])
  | c :: d :: short, h =>
    have hd := (List.cons_prefix_cons.1 (List.cons_prefix_cons.1 hfront).2).1
    exact h.colon (by simp [← hd])

theorem IsShortName.exists_cons {short : List Char} (h : IsShortName short) (rest : List Char) :
    ∃ c cs, short ++ ':' :: rest = c :: cs ∧ c ∉ ['<', '"', '\x7b', '['] := by
  cases short with
  | nil => exact ⟨':', rest, rfl, by decide⟩
  | cons c short => exact ⟨c, short ++ ':' :: rest, rfl, h.opening c rfl⟩

theorem reading_abbreviated {short : List Char} (h : IsShortName short) (rest : List Char) :
    reading (short ++ ':' :: rest) = readAbbreviated short rest := by
  have hcolon : ':' ∈ short ++ ':' :: rest := by simp
  have hnumeric : looksNumeric (short ++ ':' :: rest) = false :=
    looksNumeric_of_mem hcolon (by decide) (by decide) (by decide)
  have hsplit := splitFirst?_append h.colon rest
  have hblank := h.not_blank rest
  obtain ⟨c, cs, heq, hc⟩ := h.exists_cons rest
  rw [heq] at hcolon hnumeric hsplit hblank ⊢
  simp only [List.mem_cons, List.not_mem_nil, or_false, not_or] at hc
  have hword : ¬ (c :: cs = "true".toList ∨ c :: cs = "false".toList) := by
    rintro (h | h) <;> exact absurd (h ▸ hcolon) (by decide)
  rw [reading_cons, if_neg hc.1, if_neg hc.2.1, if_neg (by simpa using hword), hnumeric, if_neg Bool.false_ne_true,
    if_neg (by simpa using hc.2.2), if_neg (by simpa using hblank), hsplit]

/-! ## Other faults than of values -/

theorem isValueFault_of_readIri {e : Fault} (h : readIri cs = .error e) : e.isValueFault = true := by
  unfold readIri at h
  split at h
  · cases h
  · cases h
    rfl

theorem isValueFault_of_readStrayLiteral {body : List Char} {e : Fault}
    (h : readStrayLiteral body rest = .error e) : e.isValueFault = true := by
  unfold readStrayLiteral at h
  split at h
  · cases h
    rfl
  · split at h
    · split at h
      · cases h
      · cases h
        rfl
    · cases h

theorem isValueFault_of_readNumeric {e : Fault} (h : readNumeric cs = .error e) : e.isValueFault = true := by
  unfold readNumeric at h
  split at h
  · cases h
  split at h
  · have h := map_eq_error.1 h
    unfold doubleOf at h
    split at h
    · cases h
    · cases h
      rfl
  · have h := map_eq_error.1 h
    unfold integerOf at h
    split at h
    · cases h
    · cases h
      rfl
    · cases h
      rfl

/-- How a text is read that is an IRI in brackets, an abbreviated name, a graph in brackets or a literal with a
datatype that cannot be read. Any other text is not read as an IRI, and is refused as a value if at all. -/
inductive IsRead : List Char → Except Fault Reading → Prop
  | bracketed {cs : List Char} : IsRead ('<' :: cs) (readIri ('<' :: cs))
  | abbreviated {short rest : List Char} : IsShortName short →
      IsRead (short ++ ':' :: rest) (readAbbreviated short rest)
  | graph {c : Char} {cs : List Char} : c = '\x7b' ∨ c = '[' →
      IsRead (c :: cs) (reading (inner (c :: cs)) >>= fun _ => .error .nestedGraph)
  | typed {cs opened rest lead datatype : List Char} {e : Fault} :
      splitLast? (openingQuotes ('"' :: cs)) ('"' :: cs) = some (opened, rest) →
      splitLast? ['^', '^'] rest = some (lead, datatype) → reading datatype = .error e →
      IsRead ('"' :: cs) (.error e)
  | other {cs : List Char} {outcome : Except Fault Reading} :
      (∀ v, outcome ≠ .ok (.iri v)) → (∀ e, outcome = .error e → e.isValueFault = true) → IsRead cs outcome

theorem isRead_reading (cs : List Char) : IsRead cs (reading cs) := by
  cases cs with
  | nil => exact .other nofun nofun
  | cons c cs =>
    -- the cases are those of the reader, in its order
    by_cases hbracketed : c = '<'
    · subst hbracketed
      rw [reading_bracketed]
      exact .bracketed
    by_cases hgraph : c = '\x7b' ∨ c = '['
    · rw [reading_graph hgraph]
      exact .graph hgraph
    rw [reading_cons, if_neg hbracketed]
    split
    · next hquote =>
      subst hquote
      split
      · exact .other nofun nofun
      next hquotes =>
      split
      · next hcarets =>
        split
        · next hread => exact .typed hquotes hcarets hread
        · exact .other (fun v => readStrayLiteral_ne_iri) fun e => isValueFault_of_readStrayLiteral
      · exact .other (fun v => readStrayLiteral_ne_iri) fun e => isValueFault_of_readStrayLiteral
    next hquote =>
    split
    · exact .other nofun nofun
    split
    · exact .other (fun v => readNumeric_ne_iri) fun e => isValueFault_of_readNumeric
    split
    · next h => exact absurd (by simpa using h) hgraph
    split
    · exact .other nofun nofun
    next hblank =>
    split
    · next short rest hcolon =>
      have heq := append_of_splitFirst? hcolon
      rw [heq]
      refine .abbreviated ⟨notMem_of_splitFirst? hcolon, ?_, ?_⟩
      · rintro rfl
        exact hblank (by simp [heq])
      · intro d hd
        have hd : d = c := by
          cases short with
          | nil => cases hd
          | cons b short =>
            cases heq
            exact (Option.some.inj hd).symm
        subst hd
        simp only [List.mem_cons, List.not_mem_nil, or_false, not_or]
        exact ⟨hbracketed, hquote, not_or.1 hgraph⟩
    · exact .other nofun nofun

/-! ## Texts that are mistaken -/

/-- The text is read as an IRI that it does not write: the name of a known vocabulary is abbreviated, or what begins as
an IRI in brackets does not keep to its grammar. -/
inductive MistakenForIri : List Char → Prop
  | abbreviated {short rest : List Char} : IsShortName short →
      (Vocabulary.expand? (String.ofList short)).isSome = true → MistakenForIri (short ++ ':' :: rest)
  | bracketed {cs : List Char} : ¬ IsIriRef ('<' :: cs) → (unescape? (inner ('<' :: cs))).isSome = true →
      MistakenForIri ('<' :: cs)

/-- The text ends the reading with another fault than one of a value: a name of an unknown vocabulary is abbreviated, a
graph stands in brackets, or one of these is found in a graph or as the datatype of a literal. -/
inductive Breaks : List Char → Prop
  | abbreviated {short rest : List Char} : IsShortName short →
      Vocabulary.expand? (String.ofList short) = none → Breaks (short ++ ':' :: rest)
  | graph {c : Char} {cs : List Char} {r : Reading} : c = '\x7b' ∨ c = '[' →
      reading (inner (c :: cs)) = .ok r → Breaks (c :: cs)
  | nested {c : Char} {cs : List Char} : c = '\x7b' ∨ c = '[' → Breaks (inner (c :: cs)) → Breaks (c :: cs)
  | datatype {cs opened rest lead datatype : List Char} :
      splitLast? (openingQuotes ('"' :: cs)) ('"' :: cs) = some (opened, rest) →
      splitLast? ['^', '^'] rest = some (lead, datatype) → Breaks datatype → Breaks ('"' :: cs)

theorem Breaks.error (h : Breaks cs) : ∃ e, reading cs = .error e ∧ e.isValueFault = false := by
  induction h with
  | @abbreviated short rest hshort hunknown =>
    refine ⟨.unknownKey (String.ofList short), ?_, rfl⟩
    rw [reading_abbreviated hshort, readAbbreviated, hunknown]
  | graph hc hread => exact ⟨.nestedGraph, by rw [reading_graph hc, hread, ok_bind], rfl⟩
  | nested hc _ ih =>
    obtain ⟨e, he, hkind⟩ := ih
    exact ⟨e, by rw [reading_graph hc, bind_eq_error]; exact .inl he, hkind⟩
  | datatype hquotes hcarets _ ih =>
    obtain ⟨e, he, hkind⟩ := ih
    exact ⟨e, reading_typed hquotes hcarets he, hkind⟩

theorem breaks_of_error {e : Fault} (h : reading cs = .error e) (hkind : e.isValueFault = false) : Breaks cs := by
  -- What stands in brackets or as a datatype is shorter than the text that holds it.
  induction hlength : cs.length using Nat.strong_induction_on generalizing cs with
  | _ n ih =>
    have hread := isRead_reading cs
    generalize houtcome : reading cs = outcome at hread h
    cases hread with
    | bracketed =>
      rw [isValueFault_of_readIri h] at hkind
      cases hkind
    | @abbreviated short rest hshort =>
      cases hexpand : Vocabulary.expand? (String.ofList short) with
      | none => exact .abbreviated hshort hexpand
      | some iri =>
        rw [readAbbreviated, hexpand] at h
        cases h
    | graph hc =>
      rcases bind_eq_error.1 h with hinner | ⟨r, hinner, -⟩
      · exact .nested hc (ih _ (hlength ▸ length_inner_lt) hinner rfl)
      · exact .graph hc hinner
    | typed hquotes hcarets hdatatype =>
      cases h
      have hshorter := length_datatype_lt length_openingQuotes hquotes hcarets
      exact .datatype hquotes hcarets (ih _ (hlength ▸ hshorter) hdatatype rfl)
    | other _ hvalue =>
      rw [hvalue e h] at hkind
      cases hkind

theorem breaks_iff : Breaks cs ↔ ∃ e, reading cs = .error e ∧ e.isValueFault = false :=
  ⟨Breaks.error, fun ⟨_, h, hkind⟩ => breaks_of_error h hkind⟩

theorem exists_readIri_iff : (∃ v, readIri cs = .ok (.iri v)) ↔ (unescape? (inner cs)).isSome = true := by
  unfold readIri
  cases unescape? (inner cs) <;> simp

theorem exists_readAbbreviated_iff {short : List Char} :
    (∃ v, readAbbreviated short rest = .ok (.iri v)) ↔
      (Vocabulary.expand? (String.ofList short)).isSome = true := by
  unfold readAbbreviated
  cases Vocabulary.expand? (String.ofList short) <;> simp

theorem IsShortName.not_isIriRef {short : List Char} (h : IsShortName short) : ¬ IsIriRef (short ++ ':' :: rest) := by
  rintro ⟨body, heq, -⟩
  obtain ⟨c, cs, hcons, hc⟩ := h.exists_cons rest
  rw [hcons] at heq
  cases heq
  simp at hc

theorem mistakenForIri_iff : MistakenForIri cs ↔ (∃ v, reading cs = .ok (.iri v)) ∧ ¬ IsIriRef cs := by
  constructor
  · rintro (⟨hshort, hknown⟩ | ⟨hiri, hbody⟩)
    · rw [reading_abbreviated hshort, exists_readAbbreviated_iff]
      exact ⟨hknown, hshort.not_isIriRef⟩
    · rw [reading_bracketed, exists_readIri_iff]
      exact ⟨hbody, hiri⟩
  · rintro ⟨⟨v, h⟩, hiri⟩
    have hread := isRead_reading cs
    generalize houtcome : reading cs = outcome at hread h
    cases hread with
    | bracketed => exact .bracketed hiri (exists_readIri_iff.1 ⟨v, h⟩)
    | abbreviated hshort => exact .abbreviated hshort (exists_readAbbreviated_iff.1 ⟨v, h⟩)
    | graph hc =>
      obtain ⟨_, -, h⟩ := bind_eq_ok.1 h
      cases h
    | typed => cases h
    | other hother => exact absurd h (hother v)

end TripleIndex
