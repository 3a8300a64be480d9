import TripleIndex.Proofs.Terms.RoundTrip

/-!
Forms of literals are unique. A quoted text is read from left to right: a backslash stands before a character that
it keeps from being a quote or an escape, and the text ends where its closing quotes stand and no other quote comes
after them. So a text written between three quotes may end with a quote of its own if a backslash comes before that
one. Nothing of a text is lost in this way, nor of what comes after it.
-/

namespace TripleIndex

variable {mark cs ds rest tail tail' : List Char} {c : Char} {l : Literal}

/-! ## Reading up to the closing quotes -/

def closes (mark cs : List Char) : Bool := mark.isPrefixOf cs && (cs.drop mark.length).head? ≠ some '"'

/-- A text up to its closing quotes, and what comes after them. -/
def readText (mark : List Char) : List Char → List Char × List Char
  | [] => ([], [])
  | '\\' :: c :: cs => (readText mark cs).map ((if c = 'r' then '\r' else c) :: ·) id
  | c :: cs =>
    if closes mark (c :: cs) then ([], (c :: cs).drop mark.length) else (readText mark cs).map (c :: ·) id

def readQuoted (cs : List Char) : List Char × List Char :=
  let mark := openingQuotes cs
  readText mark (cs.drop mark.length)

theorem closes_append (htail : tail.head? ≠ some '"') : closes mark (mark ++ tail) = true := by
  have hfront : mark.isPrefixOf (mark ++ tail) = true := List.isPrefixOf_iff_prefix.2 (List.prefix_append ..)
  rw [closes, hfront, List.drop_left, Bool.true_and]
  exact decide_eq_true htail

theorem readText_cons (hc : c ≠ '\\') (h : closes mark (c :: cs) = false) :
    readText mark (c :: cs) = (readText mark cs).map (c :: ·) id := by
  rw [readText, h, if_neg Bool.false_ne_true]
  intro d ds hbackslash
  exact absurd hbackslash hc

theorem closes_eq_false (hmark : mark.head? = some '"') (hc : c ≠ '"') : closes mark (c :: cs) = false := by
  obtain ⟨quotes, rfl⟩ := List.head?_eq_some_iff.1 hmark
  have hfront : ('"' :: quotes).isPrefixOf (c :: cs) = false := by
    rw [← Bool.not_eq_true, List.isPrefixOf_iff_prefix, List.cons_prefix_cons]
    exact fun h => hc h.1.symm
  rw [closes, hfront, Bool.false_and]

theorem readText_append (hmark : mark.head? = some '"') (htail : tail.head? ≠ some '"') :
    readText mark (mark ++ tail) = ([], tail) := by
  obtain ⟨quotes, rfl⟩ := List.head?_eq_some_iff.1 hmark
  have hcloses : closes ('"' :: quotes) ('"' :: (quotes ++ tail)) = true := closes_append htail
  rw [List.cons_append, readText, hcloses, if_pos rfl, ← List.cons_append, List.drop_left]
  intro d ds hbackslash
  exact absurd hbackslash (by decide)

theorem readText_escapeSingle (hmark : mark.head? = some '"') (c : Char) (rest : List Char) :
    readText mark (escapeSingle c ++ rest) = (readText mark rest).map (c :: ·) id := by
  unfold escapeSingle
  split
  · next hc => rw [hc]; rfl
  next hbackslash =>
  split
  · next hc => rw [hc]; rfl
  next hquote =>
  split
  · next hc => rw [hc]; rfl
  · exact readText_cons hbackslash (closes_eq_false hmark hquote)

theorem readText_flatMap (hmark : mark.head? = some '"') (cs rest : List Char) :
    readText mark (cs.flatMap escapeSingle ++ rest) = (readText mark rest).map (cs ++ ·) id := by
  induction cs with
  | nil => rfl
  | cons c cs ih =>
    rw [List.flatMap_cons, List.append_assoc, readText_escapeSingle hmark, ih]
    rfl

/-! ## Three quotes -/

theorem escapeSingle_ne_nil (c : Char) : escapeSingle c ≠ [] := by
  unfold escapeSingle
  split
  · simp
  split
  · simp
  split <;> simp

theorem head?_escapeSingle_append (c : Char) (rest : List Char) : (escapeSingle c ++ rest).head? ≠ some '"' := by
  unfold escapeSingle
  split
  · simp
  split
  · simp
  split
  · simp
  · next hquote _ => simpa using hquote

theorem getLast?_append_escapeSingle (front : List Char) (hc : c ≠ '"') :
    (front ++ escapeSingle c).getLast? ≠ some '"' := by
  unfold escapeSingle
  rw [if_neg hc]
  split
  · simp
  split
  · simp
  · simpa using hc

theorem escapeLastQuote_of_getLast? (h : cs.getLast? ≠ some '"') : escapeLastQuote cs = cs := by
  rw [List.getLast?_eq_head?_reverse] at h
  unfold escapeLastQuote
  split
  · next hreverse => exact absurd (by rw [hreverse]; rfl) h
  · rfl

/-- The last quote is escaped unless a backslash or nothing stands before it. -/
theorem escapeLastQuote_append_quote (front : List Char) : escapeLastQuote (front ++ ['"']) =
    if front = [] ∨ front.getLast? = some '\\' then front ++ ['"'] else front ++ ['\\', '"'] := by
  rcases front.eq_nil_or_concat' with rfl | ⟨front, c, rfl⟩
  · rfl
  · have hreverse : (front ++ [c] ++ ['"']).reverse = '"' :: c :: front.reverse := by simp
    rw [escapeLastQuote, hreverse]
    by_cases hc : c = '\\'
    · simp [hc]
    · simp [hc]

theorem escapeReturn_ne_nil (c : Char) : escapeReturn c ≠ [] := by
  unfold escapeReturn
  split <;> simp

theorem getLast?_flatMap_escapeReturn : (cs.flatMap escapeReturn).getLast? = some '\\' ↔ cs.getLast? = some '\\' := by
  rcases cs.eq_nil_or_concat' with rfl | ⟨front, c, rfl⟩
  · rfl
  · rw [List.flatMap_append, List.flatMap_singleton, escapeReturn]
    split
    · next hc => simp [hc]
    · simp

/-- Whether the last quote is escaped before the carriage returns or after them makes no difference. -/
theorem flatMap_escapeLastQuote (cs : List Char) :
    (escapeLastQuote cs).flatMap escapeReturn = escapeLastQuote (cs.flatMap escapeReturn) := by
  by_cases hlast : cs.getLast? = some '"'
  · obtain ⟨front, rfl⟩ := List.getLast?_eq_some_iff.1 hlast
    have hquote : (front ++ ['"']).flatMap escapeReturn = front.flatMap escapeReturn ++ ['"'] := by
      rw [List.flatMap_append]
      rfl
    have hempty : front.flatMap escapeReturn = [] ↔ front = [] := by
      cases front with
      | nil => simp
      | cons c front => simp [escapeReturn_ne_nil]
    simp only [hquote, escapeLastQuote_append_quote, hempty, getLast?_flatMap_escapeReturn]
    split
    · exact hquote
    · rw [List.flatMap_append]
      rfl
  · have hlast' : (cs.flatMap escapeReturn).getLast? ≠ some '"' := by
      rcases cs.eq_nil_or_concat' with rfl | ⟨front, c, rfl⟩
      · simp
      · rw [List.flatMap_append, List.flatMap_singleton, escapeReturn]
        split
        · simp
        · simpa using hlast
    rw [escapeLastQuote_of_getLast? hlast, escapeLastQuote_of_getLast? hlast']

def escapedQuotes : List Char := ['\\', '"', '\\', '"', '\\', '"']

theorem escapeReturn_of_ne (hc : c ≠ '\\') (hquote : c ≠ '"') : escapeReturn c = escapeSingle c := by
  rw [escapeReturn, escapeSingle, if_neg hc, if_neg hquote]

theorem guarded_append_of_ne (hc : c ≠ '"') (cs : List Char) : guarded (cs ++ [c]) = guarded cs ++ escapeSingle c := by
  induction cs using guarded_induction with
  | nil =>
    have hfront : ¬ threeQuotes <+: [c] := by simp [threeQuotes]
    by_cases hbackslash : c = '\\'
    · rw [hbackslash]
      rfl
    · rw [List.nil_append, guarded_cons hbackslash hfront, escapeReturn_of_ne hbackslash hc]
      simp [guarded]
  | quotes cs ih => rw [List.append_assoc, guarded_threeQuotes, guarded_threeQuotes, ih, List.append_assoc]
  | backslash cs ih =>
    rw [List.cons_append, guarded_backslash, guarded_backslash, ih]
    rfl
  | char d cs hd hfront ih =>
    have hfront' : ¬ threeQuotes <+: d :: cs ++ [c] := by
      rw [List.prefix_concat_iff, not_or]
      refine ⟨fun h => hc ?_, hfront⟩
      have hlast := congrArg List.getLast? h
      rw [List.getLast?_concat] at hlast
      exact (Option.some.inj hlast).symm
    rw [List.cons_append] at hfront' ⊢
    rw [guarded_cons hd hfront', guarded_cons hd hfront, ih, List.append_assoc]

/-- A quote at the end is written as it is, unless it is the last of three. -/
theorem guarded_append_quote (cs : List Char) : guarded (cs ++ ['"']) = guarded cs ++ ['"'] ∨
    ∃ front, cs = front ++ ['"', '"'] ∧ guarded (cs ++ ['"']) = guarded front ++ escapedQuotes := by
  induction cs using guarded_induction with
  | nil => exact .inl rfl
  | quotes cs ih =>
    rw [List.append_assoc, guarded_threeQuotes, guarded_threeQuotes]
    rcases ih with ih | ⟨front, rfl, ih⟩
    · exact .inl (by rw [ih, List.append_assoc])
    · exact .inr ⟨threeQuotes ++ front, by simp, by rw [ih, guarded_threeQuotes, List.append_assoc]⟩
  | backslash cs ih =>
    rw [List.cons_append, guarded_backslash, guarded_backslash]
    rcases ih with ih | ⟨front, rfl, ih⟩
    · exact .inl (by rw [ih]; rfl)
    · exact .inr ⟨'\\' :: front, rfl, by rw [ih, guarded_backslash]; rfl⟩
  | char d cs hd hfront ih =>
    by_cases hfront' : threeQuotes <+: d :: cs ++ ['"']
    · -- the three quotes are all there is
      obtain ⟨hquote, hrest⟩ : '"' = d ∧ ['"', '"'] = cs ++ ['"'] := by
        simpa [threeQuotes] using (List.prefix_concat_iff.1 hfront').resolve_right hfront
      have hcs : cs = ['"'] := (List.append_cancel_right (show ['"'] ++ ['"'] = cs ++ ['"'] from hrest)).symm
      subst hquote hcs
      exact .inr ⟨[], rfl, rfl⟩
    · rw [List.cons_append] at hfront' ⊢
      rw [guarded_cons hd hfront', guarded_cons hd hfront]
      rcases ih with ih | ⟨front, rfl, ih⟩
      · exact .inl (by rw [ih, List.append_assoc])
      · have hshort : ¬ threeQuotes <+: d :: front := fun h =>
          hfront (h.trans (List.prefix_append (d :: front) ['"', '"']))
        exact .inr ⟨d :: front, rfl, by rw [ih, guarded_cons hd hshort, List.append_assoc]⟩

theorem guarded_eq_nil (h : guarded cs = []) : cs = [] := by
  rcases cs.eq_nil_or_concat' with rfl | ⟨front, c, rfl⟩
  · rfl
  · by_cases hc : c = '"'
    · subst hc
      rcases guarded_append_quote front with heq | ⟨_, -, heq⟩ <;> simp [heq, escapedQuotes] at h
    · rw [guarded_append_of_ne hc, List.append_eq_nil_iff] at h
      exact absurd h.2 (escapeSingle_ne_nil c)

theorem exists_of_getLast?_guarded (h : (guarded cs).getLast? = some '\\') :
    ∃ front, cs = front ++ ['\\'] ∧ guarded cs = guarded front ++ ['\\', '\\'] := by
  rcases cs.eq_nil_or_concat' with rfl | ⟨front, c, rfl⟩
  · cases h
  · by_cases hc : c = '"'
    · subst hc
      rcases guarded_append_quote front with heq | ⟨_, -, heq⟩ <;> simp [heq, escapedQuotes] at h
    · have heq := guarded_append_of_ne hc front
      by_cases hbackslash : c = '\\'
      · subst hbackslash
        exact ⟨front, rfl, heq⟩
      · rw [heq, escapeSingle, if_neg hbackslash, if_neg hc] at h
        split at h
        · simp at h
        · simp [hbackslash] at h

theorem exists_of_head?_guarded (hrest : rest.head? ≠ some '"') (h : (guarded cs ++ rest).head? = some '"') :
    ∃ ds, cs = '"' :: ds ∧ guarded cs = '"' :: guarded ds := by
  have hhead : (guarded cs).head? = some '"' := by
    cases hguarded : guarded cs with
    | nil =>
      rw [hguarded] at h
      exact absurd h hrest
    | cons c front =>
      rw [hguarded] at h
      exact h
  obtain ⟨hquote, hfront⟩ := Bool.and_eq_true_iff.1 (head?_guarded.1 hhead)
  obtain ⟨ds, rfl⟩ := List.head?_eq_some_iff.1 (of_decide_eq_true hquote)
  have hfront : ¬ threeQuotes <+: '"' :: ds := by
    rw [Bool.not_eq_true', ← Bool.not_eq_true, List.isPrefixOf_iff_prefix] at hfront
    exact hfront
  exact ⟨ds, rfl, guarded_cons (by decide) hfront⟩

/-- Between three quotes a text is read back as far as no quote comes next. -/
theorem readText_guarded (hrest : rest.head? ≠ some '"') (cs : List Char) :
    readText threeQuotes (guarded cs ++ rest) = (readText threeQuotes rest).map (cs ++ ·) id := by
  induction cs using guarded_induction with
  | nil => rfl
  | quotes cs ih =>
    rw [guarded_threeQuotes, List.append_assoc]
    show ((readText threeQuotes (guarded cs ++ rest)).map _ _ |>.map _ _ |>.map _ _) = _
    rw [ih]
    rfl
  | backslash cs ih =>
    rw [guarded_backslash]
    show (readText threeQuotes (guarded cs ++ rest)).map _ _ = _
    rw [ih]
    rfl
  | char c cs hc hfront ih =>
    rw [guarded_cons hc hfront, List.append_assoc]
    -- A bare quote is written only where three do not stand together, and `hrest` says that the rest adds none.
    by_cases hquote : c = '"'
    · subst hquote
      have hcloses : closes threeQuotes ('"' :: (guarded cs ++ rest)) = false := by
        refine Bool.and_eq_false_imp.2 fun hprefix => ?_
        obtain ⟨more, hmore⟩ := (List.cons_prefix_cons.1 (List.isPrefixOf_iff_prefix.1 hprefix)).2
        obtain ⟨ds, rfl, hguarded⟩ := exists_of_head?_guarded hrest (by rw [← hmore]; rfl)
        rw [hguarded] at hmore
        have hsecond : '"' :: more = guarded ds ++ rest := (List.cons.inj hmore).2
        obtain ⟨es, rfl, -⟩ := exists_of_head?_guarded hrest (by rw [← hsecond]; rfl)
        exact absurd (List.prefix_append threeQuotes es) hfront
      show readText threeQuotes ('"' :: (guarded cs ++ rest)) = _
      rw [readText_cons (by decide) hcloses, ih]
      rfl
    · rw [escapeReturn_of_ne hc hquote, readText_escapeSingle rfl, ih]
      rfl

/-- Between three quotes every text is read back, except a quote alone, which never stands there. -/
theorem readText_escapeLastQuote (htail : tail.head? ≠ some '"') (hcs : cs ≠ ['"']) :
    readText threeQuotes (escapeLastQuote (guarded cs) ++ (threeQuotes ++ tail)) = (cs, tail) := by
  have hclosing : readText threeQuotes (threeQuotes ++ tail) = ([], tail) := readText_append rfl htail
  rcases cs.eq_nil_or_concat' with rfl | ⟨front, c, rfl⟩
  · exact hclosing
  by_cases hc : c = '"'
  · subst hc
    rcases guarded_append_quote front with heq | ⟨front, rfl, heq⟩
    · rw [heq, escapeLastQuote_append_quote]
      split
      · next hlast =>
        rcases hlast with hempty | hlast
        · rw [guarded_eq_nil hempty] at hcs
          exact absurd rfl hcs
        · -- after a backslash the quote of the text stands before the three that close it
          obtain ⟨front, rfl, heq⟩ := exists_of_getLast?_guarded hlast
          have hopen : closes threeQuotes ('"' :: (threeQuotes ++ tail)) = false := rfl
          rw [heq, List.append_assoc, List.append_assoc, readText_guarded (by simp)]
          show ((readText threeQuotes ('"' :: (threeQuotes ++ tail))).map _ _).map _ _ = _
          rw [readText_cons (by decide) hopen, hclosing]
          simp
      · rw [List.append_assoc, readText_guarded (by simp)]
        show ((readText threeQuotes (threeQuotes ++ tail)).map _ _).map _ _ = _
        rw [hclosing]
        simp
    · have hlast : escapeLastQuote (guarded front ++ escapedQuotes) = guarded front ++ escapedQuotes := by
        have hsplit : guarded front ++ escapedQuotes = guarded front ++ escapedQuotes.dropLast ++ ['"'] := by
          simp [escapedQuotes]
        rw [hsplit, escapeLastQuote_append_quote, if_pos (.inr (by simp [escapedQuotes]))]
      rw [heq, hlast, List.append_assoc, readText_guarded (by simp [escapedQuotes])]
      show ((((readText threeQuotes (threeQuotes ++ tail)).map _ _).map _ _).map _ _).map _ _ = _
      rw [hclosing]
      simp
  · rw [guarded_append_of_ne hc, escapeLastQuote_of_getLast? (getLast?_append_escapeSingle _ hc), List.append_assoc,
      readText_guarded (head?_escapeSingle_append c _), readText_escapeSingle rfl, hclosing]
    rfl

/-! ## Quoted texts -/

theorem readQuoted_quotedForm (htail : tail.head? ≠ some '"') (cs : List Char) :
    readQuoted (quotedForm cs ++ tail) = (cs, tail) := by
  unfold quotedForm
  split
  · next hline =>
    have hcs : cs ≠ ['"'] := by
      rintro rfl
      exact absurd hline (by decide)
    have hopening : ∀ rest, openingQuotes (threeQuotes ++ rest) = threeQuotes := fun rest =>
      if_pos (List.isPrefixOf_iff_prefix.2 (List.prefix_append ..))
    dsimp only
    rw [flatMap_escapeLastQuote, ← guarded, List.append_assoc, List.append_assoc, readQuoted,
      hopening, List.drop_left, readText_escapeLastQuote htail hcs]
  · have hsplit : '"' :: cs.flatMap escapeSingle ++ ['"'] ++ tail = '"' :: (cs.flatMap escapeSingle ++ '"' :: tail) := by
      simp
    rw [hsplit, readQuoted, openingQuotes_single htail]
    show readText ['"'] (cs.flatMap escapeSingle ++ (['"'] ++ tail)) = _
    rw [readText_flatMap rfl, readText_append rfl htail]
    simp

theorem quotedForm_append_inj (htail : tail.head? ≠ some '"') (htail' : tail'.head? ≠ some '"')
    (h : quotedForm cs ++ tail = quotedForm ds ++ tail') : cs = ds ∧ tail = tail' := by
  have hread := readQuoted_quotedForm htail cs
  rw [h, readQuoted_quotedForm htail' ds] at hread
  exact ⟨(Prod.mk.inj hread).1.symm, (Prod.mk.inj hread).2.symm⟩

/-! ## Literals -/

namespace Literal

variable {a b : Literal} {form : String}

theorem head?_tail (l : Literal) : l.tail.head? ≠ some '"' := by
  unfold tail
  split <;> simp

theorem tail_cases (hl : l.IsMade) (hspelled : l.IsSpelled) (h : l.form = .ok form) :
    (∃ tag, l.language? = some (.text tag) ∧ l.datatype? = none ∧ l.tail = '@' :: tag.toList) ∨
      (∃ name, l.language? = none ∧ l.datatype? = some (.text name) ∧
        l.tail = '^' :: '^' :: ('<' :: name.toList ++ ['>'])) ∨
      l.language? = none ∧ l.datatype? = none ∧ l.tail = [] := by
  have htags := (l.form_toList hl hspelled h).2
  unfold tail
  cases hlanguage : l.language? with
  | some v =>
    obtain ⟨tag, rfl, -⟩ := htags v hlanguage
    exact .inl ⟨tag, rfl, hl.single.resolve_left (by simp [hlanguage]), rfl⟩
  | none =>
    cases hdatatype : l.datatype? with
    | some v =>
      obtain ⟨name, rfl⟩ := l.exists_datatype_text hl h hdatatype
      exact .inr (.inl ⟨name, rfl, rfl, rfl⟩)
    | none => exact .inr (.inr ⟨rfl, rfl, rfl⟩)

theorem tail_inj (ha : a.language? = none ∨ a.datatype? = none) (hb : b.language? = none ∨ b.datatype? = none)
    (h : a.tail = b.tail) : a.language?.map Scalar.plain = b.language?.map Scalar.plain ∧
      a.datatype?.map Scalar.plain = b.datatype?.map Scalar.plain := by
  unfold tail at h
  cases hl : a.language? <;> cases hd : a.datatype? <;> cases hl' : b.language? <;> cases hd' : b.datatype? <;>
    simp_all [String.toList_inj]

theorem eq_of_map_plain {x y : Option Scalar} (hx : ∀ v ∈ x, ∃ s, v = .text s) (hy : ∀ v ∈ y, ∃ s, v = .text s)
    (h : x.map Scalar.plain = y.map Scalar.plain) : x = y := by
  cases x with
  | none => simpa [eq_comm] using h
  | some v =>
    obtain ⟨w, rfl, hplain⟩ : ∃ w, y = some w ∧ w.plain = v.plain := by simpa [eq_comm] using h
    obtain ⟨s, rfl⟩ := hx v rfl
    obtain ⟨s', rfl⟩ := hy w rfl
    rw [show s' = s from hplain]

theorem HasLanguageTag.text (h : l.HasLanguageTag) : ∀ v ∈ l.language?, ∃ s, v = .text s := by
  intro v hv
  obtain ⟨tag, rfl, -⟩ := h v hv
  exact ⟨tag, rfl⟩

/-- Literals with one form are the same, up to white space that their datatype leaves out. -/
theorem eq_of_form (ha : a.IsMade) (hb : b.IsMade) (hspelled : a.IsSpelled) (hspelled' : b.IsSpelled)
    (hform : a.form = .ok form) (hform' : b.form = .ok form) :
    a.language? = b.language? ∧ a.datatype? = b.datatype? ∧
      normalizeLexical a.datatype? a.lexical.toList = normalizeLexical b.datatype? b.lexical.toList := by
  have hsame := (a.form_toList ha hspelled hform).1.symm.trans (b.form_toList hb hspelled' hform').1
  obtain ⟨hlexical, htail⟩ := quotedForm_append_inj a.head?_tail b.head?_tail hsame
  obtain ⟨hlanguage, hdatatype⟩ := tail_inj ha.single hb.single htail
  refine ⟨?_, ?_, hlexical⟩
  · exact eq_of_map_plain (hasLanguageTag_of_form hform).text (hasLanguageTag_of_form hform').text hlanguage
  · exact eq_of_map_plain (fun _ hv => a.exists_datatype_text ha hform hv)
      (fun _ hv => b.exists_datatype_text hb hform' hv) hdatatype

end Literal

end TripleIndex
