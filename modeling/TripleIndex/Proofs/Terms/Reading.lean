import TripleIndex.Proofs.Terms.Decoding
import TripleIndex.Term.Read

/-!
Reading forms. An IRI in angle brackets and a label after `_:` are read as they are written. A literal
is split at its last quotes, since neither a tag nor the name of a datatype holds a quote, and what stands
between its quotes is decoded.
-/

namespace TripleIndex

variable {cs tail : List Char} {ns : List Nat}

/-! ## Names -/

theorem ofCodePoints_map_toNat (cs : List Char) :
    Scalar.ofCodePoints (cs.map Char.toNat) = .text (String.ofList cs) := by
  have hnone : (cs.map Char.toNat).any isSurrogate = false := by simp [isSurrogate_toNat]
  rw [Scalar.ofCodePoints, hnone, if_neg (by simp), List.map_map]
  simp [Function.comp_def]

theorem length_of_ofCodePoints {s : String} (h : Scalar.ofCodePoints ns = .text s) :
    ns.length = s.toList.length := by
  unfold Scalar.ofCodePoints at h
  split at h
  · cases h
  · cases h
    simp

theorem decodes_widened (h : '\\' ∉ cs) : Decodes (widened cs) (cs.map Char.toNat) := by
  induction cs with
  | nil => exact fun rest => by simp [widened]
  | cons c cs ih =>
    rw [List.mem_cons, not_or] at h
    exact (decodes_spellWide (Ne.symm h.1)).append (ih h.2)

theorem unescape?_of_notMem (h : '\\' ∉ cs) : unescape? cs = some (.text (String.ofList cs)) := by
  rw [unescape?, ← widened, (decodes_widened h).decode, Option.map_some, ofCodePoints_map_toNat]

theorem notMem_of_isLegalIri {c : Char} (h : isLegalIri cs = true) (hc : illegalInIri.contains c = true) :
    c ∉ cs := by
  intro hmem
  have := List.all_eq_true.1 h c hmem
  rw [hc] at this
  cases this

theorem inner_append (q r : Char) (cs : List Char) : inner (q :: cs ++ [r]) = cs := by simp [inner]

theorem reading_iri (h : '\\' ∉ cs) : reading ('<' :: cs ++ ['>']) = .ok (.iri (.text (String.ofList cs))) := by
  have hlength : ('<' :: cs ++ ['>']).length = cs.length + 1 + 1 := by simp
  rw [reading, hlength, List.cons_append, readForm, if_pos rfl, readIri, ← List.cons_append, inner_append,
    unescape?_of_notMem h]

theorem looksNumeric_label : looksNumeric ('_' :: cs) = false := by
  have hmem : '_' ∈ (((lowerAscii ('_' :: cs)).erase '.').erase '-').erase 'e' := by
    refine (List.mem_erase_of_ne (by decide)).2 ((List.mem_erase_of_ne (by decide)).2 ?_)
    exact (List.mem_erase_of_ne (by decide)).2 List.mem_cons_self
  have hnumeral : isNumeral '_' = false := by decide
  rw [looksNumeric, Bool.and_eq_false_iff]
  refine .inr (List.all_eq_false.2 ⟨'_', hmem, ?_⟩)
  rw [hnumeral]
  decide

theorem reading_blank : reading ('_' :: ':' :: cs) = .ok (.blank (String.ofList cs)) := by
  have hlength : ('_' :: ':' :: cs).length = cs.length + 1 + 1 := rfl
  rw [reading, hlength, readForm]
  simp [looksNumeric_label]

/-! ## Quotes -/

theorem readLiteral_append {text : String} {m : Char} {mark body : List Char}
    (hquotes : openingQuotes (m :: mark ++ body ++ (m :: mark) ++ tail) = m :: mark)
    (hlast : ¬ m :: mark <:+: mark ++ tail) :
    readLiteral text (m :: mark ++ body ++ (m :: mark) ++ tail) = (do
      let lexical ← lexicalOf body
      readTail text lexical tail) := by
  unfold readLiteral
  rw [hquotes]
  dsimp only
  rw [splitLast?_append hlast]
  dsimp only
  rw [if_neg (by simp), List.drop_left]
  cases lexicalOf body <;> rfl

theorem openingQuotes_single (htail : tail.head? ≠ some '"') (cs : List Char) :
    openingQuotes ('"' :: (cs.flatMap escapeSingle ++ '"' :: tail)) = ['"'] := by
  refine if_neg fun hfront => ?_
  have hfront := (List.cons_prefix_cons.1 (List.isPrefixOf_iff_prefix.1 hfront)).2
  cases hbody : cs.flatMap escapeSingle with
  | nil =>
    rw [hbody] at hfront
    obtain ⟨rest, hrest⟩ := (List.cons_prefix_cons.1 hfront).2
    exact htail (by rw [← hrest]; rfl)
  | cons c body =>
    rw [hbody] at hfront
    have hhead : (cs.flatMap escapeSingle).head? ≠ some '"' := head?_escapeSingle
    rw [hbody, ← (List.cons_prefix_cons.1 hfront).1] at hhead
    exact hhead rfl

theorem unescapeLexical?_of_unquote {wide : Bool} {body : List Char}
    (h : unquote body = spelledWith (countUnquoted wide) cs) :
    unescapeLexical? body = (unescapeFrom .plain (decodedText wide cs)).map .ofCodePoints := by
  unfold unescapeLexical?
  rw [← unquote, h, replaceAll_hex, unescape?, ← widened, ← decodedText]

theorem readLiteral_quotedForm {text : String} (htail : '"' ∉ tail) (cs : List Char) :
    readLiteral text (quotedForm cs ++ tail) =
      match unescapeFrom .plain (decodedText (cs.contains '\n') cs) with
      | none => .error .malformedEscape
      | some ns => readTail text (.ofCodePoints ns) tail := by
  have hcount : tail.count '"' = 0 := List.count_eq_zero.2 htail
  have hbody : ∀ body, unescapeLexical? body =
      (unescapeFrom .plain (decodedText (cs.contains '\n') cs)).map .ofCodePoints →
      (do
        let lexical ← lexicalOf body
        readTail text lexical tail : Except Fault Term) =
      match unescapeFrom .plain (decodedText (cs.contains '\n') cs) with
      | none => .error .malformedEscape
      | some ns => readTail text (.ofCodePoints ns) tail := by
    intro body h
    rw [lexicalOf, h]
    cases unescapeFrom .plain (decodedText (cs.contains '\n') cs) <;> rfl
  unfold quotedForm
  split
  · next hwide =>
    refine (readLiteral_append (if_pos ?_) fun hwithin => ?_).trans (hbody _ ?_)
    · rw [List.append_assoc, List.append_assoc]
      exact List.isPrefixOf_iff_prefix.2 (List.prefix_append ..)
    · have := hwithin.sublist.count_le '"'
      simp [hcount] at this
    · refine unescapeLexical?_of_unquote ?_
      rw [unquote_escapeLastQuote, hwide]
      exact unquote_guarded cs
  · next hnarrow =>
    have hopening := openingQuotes_single (fun hhead => htail (List.mem_of_head? hhead)) cs
    have hsplit : '"' :: cs.flatMap escapeSingle ++ ['"'] ++ tail =
        '"' :: (cs.flatMap escapeSingle ++ '"' :: tail) := by simp
    have hlast : ¬ ['"'] <:+: [] ++ tail := by
      intro hwithin
      exact htail (hwithin.subset (by simp))
    rw [← hsplit] at hopening
    refine (readLiteral_append hopening hlast).trans (hbody (cs.flatMap escapeSingle) (unescapeLexical?_of_unquote ?_))
    rw [unquote_escapeSingle, Bool.eq_false_iff.2 hnarrow]

end TripleIndex
