import TripleIndex.Filter.Grammar

/-!
Filter queries read back from their texts. Every clause that asks a field for a text, or for a range between
texts, is read as itself, whatever the texts are and whatever follows, and so is a conjunction of them.
-/

namespace TripleIndex

variable {c : Char} {cs rest : List Char}

def isFieldName (name : String) : Bool :=
  match name.toList with
  | [] => false
  | c :: cs => Grammar.startsName c && cs.all Grammar.continuesName

/-- A clause that asks a field that the grammar can name. -/
def Clause.Asks (clause : Clause) : Prop := isFieldName clause.field = true

/-- A clause that asks a field for a text, or for a range with texts for its bounds. -/
inductive Clause.AsksText : Clause → Prop
  | term {name : String} (value : String) (h : isFieldName name = true) : AsksText (.term name (.text value))
  | range {name : String} (lower upper : Option String) (h : isFieldName name = true) :
    AsksText (.range name (lower.map .text) (upper.map .text))

theorem Clause.AsksText.asks {clause : Clause} (h : clause.AsksText) : clause.Asks := by
  cases h with
  | term value hname => exact hname
  | range lower upper hname => exact hname

namespace Grammar

/-! ## Characters of names -/

theorem bounds_of_startsName (h : startsName c = true) : 65 ≤ c.toNat ∧ c.toNat ≤ 122 := by
  delta startsName Char.isAlpha Char.isUpper Char.isLower at h
  simp only [Bool.or_eq_true, Bool.and_eq_true, decide_eq_true_eq] at h
  rcases h with (⟨hlow, hhigh⟩ | ⟨hlow, hhigh⟩) | rfl
  · have hlow : 65 ≤ c.toNat := hlow
    have hhigh : c.toNat ≤ 90 := hhigh
    omega
  · have hlow : 97 ≤ c.toNat := hlow
    have hhigh : c.toNat ≤ 122 := hhigh
    omega
  · decide

theorem isBlank_of_startsName (h : startsName c = true) : isBlank c = false := by
  have := bounds_of_startsName h
  simp only [isBlank, isBlankAroundNumber, isSeparator, Bool.or_eq_false_iff, Bool.and_eq_false_iff,
    decide_eq_false_iff_not, beq_eq_false_iff_ne]
  omega

theorem isSkipped_of_startsName (h : startsName c = true) : isSkipped c = false := by
  have hbounds := bounds_of_startsName h
  simp only [isSkipped, Bool.or_eq_false_iff, decide_eq_false_iff_not]
  refine ⟨⟨⟨?_, ?_⟩, ?_⟩, ?_⟩ <;> (rintro rfl; revert hbounds; decide)

theorem skip_cons (h : isSkipped c = false) : skip (c :: cs) = c :: cs :=
  List.dropWhile_cons_of_neg (by simp [h])

/-! ## One clause -/

theorem token?_cons (h : isSkipped c = false) : token? c (c :: cs) = some cs := by
  rw [token?, skip_cons h]
  exact if_pos rfl

theorem token?_of_ne {d : Char} (h : isSkipped d = false) (hne : d ≠ c) : token? c (d :: cs) = none := by
  rw [token?, skip_cons h]
  exact if_neg hne

theorem name?_append {name : String} (h : isFieldName name = true)
    (hstop : ∀ c, rest.head? = some c → continuesName c = false) :
    name? (name.toList ++ rest) = some (name.toList, rest) := by
  unfold isFieldName at h
  split at h
  · cases h
  · next c cs hname =>
    rw [Bool.and_eq_true] at h
    have hall := List.all_eq_true.1 h.2
    have htake : (cs ++ rest).takeWhile continuesName = cs ∧ (cs ++ rest).dropWhile continuesName = rest := by
      rw [List.takeWhile_append_of_pos hall, List.dropWhile_append_of_pos hall]
      cases rest with
      | nil => exact ⟨List.append_nil cs, rfl⟩
      | cons d rest =>
        have hd := hstop d rfl
        rw [List.takeWhile_cons_of_neg (by simp [hd]), List.dropWhile_cons_of_neg (by simp [hd])]
        exact ⟨List.append_nil cs, rfl⟩
    rw [hname, name?, List.cons_append, skip_cons (isSkipped_of_startsName h.1)]
    simp only [h.1, if_true, htake.1, htake.2]

theorem quotedRest?_append (cs rest : List Char) :
    quotedRest? (cs.flatMap escapeQuote ++ '"' :: rest) = some (cs, rest) := by
  induction cs with
  | nil => rw [List.flatMap_nil, List.nil_append, quotedRest?]
  | cons c cs ih =>
    rw [List.flatMap_cons, List.append_assoc]
    rw [escapeQuote]
    split
    · next h =>
      rw [h, List.cons_append, List.cons_append, List.nil_append, quotedRest?, ih]
      rfl
    split
    · next h =>
      rw [h, List.cons_append, List.cons_append, List.nil_append, quotedRest?, ih]
      rfl
    · next hback hquote =>
      rw [List.cons_append, List.nil_append, quotedRest?, ih]
      · rfl
      all_goals simp_all

theorem quoted?_quoteChars (cs rest : List Char) : quoted? (quoteChars cs ++ rest) = some (cs, rest) := by
  rw [quoted?, quoteChars, List.append_assoc, List.cons_append, token?_cons (by decide)]
  exact quotedRest?_append cs rest

theorem value?_quoteChars (cs rest : List Char) : value? (quoteChars cs ++ rest) = some (cs, rest) := by
  rw [value?, quoted?_quoteChars]

theorem range?_quoteChars (cs rest : List Char) : range? (quoteChars cs ++ rest) = none := by
  rw [range?, quoteChars, List.append_assoc, List.cons_append, token?_of_ne (by decide) (by decide)]
  rfl

theorem bound?_boundChars (bound : Option String) (rest : List Char) :
    bound? (Clause.boundChars (bound.map .text) ++ rest) = some (bound.map String.toList, rest) := by
  cases bound with
  | none => rfl
  | some value =>
    have hstar : token? '*' (quoteChars value.toList ++ rest) = none := by
      rw [quoteChars, List.append_assoc, List.cons_append, token?_of_ne (by decide) (by decide)]
    have hchars : Clause.boundChars ((some value).map .text) = quoteChars value.toList := rfl
    rw [hchars, bound?, hstar, quoted?_quoteChars]
    rfl

theorem keyword?_to (rest : List Char) : keyword? wordTo (" TO ".toList ++ rest) = some (' ' :: rest) := rfl

theorem bound?_space (cs : List Char) : bound? (' ' :: cs) = bound? cs := rfl

theorem range?_boundChars (lower upper : Option String) (rest : List Char) :
    range? ('[' :: (Clause.boundChars (lower.map .text) ++ (" TO ".toList ++
      (Clause.boundChars (upper.map .text) ++ ']' :: rest)))) =
      some ((lower.map String.toList, upper.map String.toList), rest) := by
  rw [range?, token?_cons (by decide)]
  simp only [Option.bind_eq_bind, Option.bind_some, bound?_boundChars, keyword?_to, bound?_space,
    token?_cons (show isSkipped ']' = false by decide)]

theorem textOf_toList (value : String) : textOf value.toList = .text value := by
  rw [textOf, String.ofList_toList]

theorem name?_colon {name : String} (h : isFieldName name = true) (rest : List Char) :
    name? (name.toList ++ ':' :: rest) = some (name.toList, ':' :: rest) := by
  refine name?_append h fun c hc => ?_
  cases hc
  decide

theorem clause?_chars {clause : Clause} (h : clause.AsksText) (rest : List Char) :
    clause? (clause.chars ++ rest) = some (clause, rest) := by
  cases h with
  | @term name value hname =>
    have hchars : (Clause.term name (.text value)).chars ++ rest =
        name.toList ++ ':' :: (quoteChars value.toList ++ rest) := by
      rw [Clause.chars, List.append_assoc]
      rfl
    rw [hchars, clause?, name?_colon hname]
    simp only [Option.bind_eq_bind, Option.bind_some, token?_cons (show isSkipped ':' = false by decide),
      range?_quoteChars, value?_quoteChars]
    rw [textOf_toList, String.ofList_toList]
  | @range name lower upper hname =>
    have hchars : (Clause.range name (lower.map .text) (upper.map .text)).chars ++ rest =
        name.toList ++ ':' :: '[' :: (Clause.boundChars (lower.map .text) ++ (" TO ".toList ++
          (Clause.boundChars (upper.map .text) ++ ']' :: rest))) := by
      simp only [Clause.chars, List.append_assoc, List.cons_append, List.nil_append]
    have htexts : ∀ bound : Option String, (bound.map String.toList).map textOf = bound.map .text := by
      intro bound
      cases bound with
      | none => rfl
      | some value => exact congrArg some (textOf_toList value)
    rw [hchars, clause?, name?_colon hname]
    simp only [Option.bind_eq_bind, Option.bind_some, token?_cons (show isSkipped ':' = false by decide),
      range?_boundChars, htexts]
    rw [String.ofList_toList]

/-! ## Conjunctions -/

theorem keyword?_and (rest : List Char) : keyword? wordAnd (" AND ".toList ++ rest) = some (' ' :: rest) := rfl

theorem clause?_space (cs : List Char) : clause? (' ' :: cs) = clause? cs := rfl

theorem clauses?_space (steps : Nat) (cs : List Char) : clauses? steps (' ' :: cs) = clauses? steps cs := by
  cases steps with
  | zero => rfl
  | succ steps => rw [clauses?, clauses?, clause?_space]

theorem clauses?_joinChars {f : Filter} (h : ∀ clause ∈ f, clause.AsksText) (hsome : f ≠ []) {steps : Nat}
    (hsteps : f.length ≤ steps) : clauses? steps (Filter.joinChars f) = some f := by
  -- the last clause has no keyword behind it, so a single one is a case of its own
  induction f generalizing steps with
  | nil => exact absurd rfl hsome
  | cons clause f ih =>
    obtain ⟨steps, rfl⟩ := Nat.exists_eq_add_of_le' (Nat.one_le_of_lt hsteps)
    have hclause := clause?_chars (h clause List.mem_cons_self)
    cases f with
    | nil =>
      have hread := hclause []
      rw [List.append_nil] at hread
      rw [Filter.joinChars, clauses?, hread]
      rfl
    | cons next f =>
      have hmore := ih (fun d hd => h d (List.mem_cons_of_mem clause hd)) (List.cons_ne_nil next f)
        (Nat.le_of_succ_le_succ hsteps)
      rw [Filter.joinChars, List.append_assoc, clauses?, hclause]
      · simp only [Option.bind_eq_bind, Option.bind_some]
        rw [if_neg, keyword?_and, Option.bind_some, clauses?_space, hmore]
        · rfl
        · simp [skip, isSkipped]
      · exact List.cons_ne_nil next f

theorem length_le_joinChars (f : Filter) : f.length ≤ (Filter.joinChars f).length := by
  have hpos : ∀ clause : Clause, 1 ≤ clause.chars.length := by
    intro clause
    cases clause with
    | term name value =>
      rw [Clause.chars, List.length_append, List.length_cons]
      omega
    | range name lower upper =>
      simp only [Clause.chars, List.length_append, List.length_cons]
      omega
  induction f with
  | nil => exact Nat.zero_le _
  | cons clause f ih =>
    have hclause := hpos clause
    cases f with
    | nil => exact hclause
    | cons next f =>
      rw [Filter.joinChars, List.length_append, List.length_append, List.length_cons]
      · omega
      · exact List.cons_ne_nil next f

theorem exists_chars_eq {clause : Clause} (h : clause.Asks) :
    ∃ c body last, clause.chars = c :: body ++ [last] ∧ startsName c = true ∧ isBlank last = false := by
  have hname : ∃ c cs, clause.field.toList = c :: cs ∧ startsName c = true := by
    have hname : isFieldName clause.field = true := h
    unfold isFieldName at hname
    split at hname
    · cases hname
    · next c cs hcs => exact ⟨c, cs, hcs, (Bool.and_eq_true_iff.1 hname).1⟩
  obtain ⟨c, cs, hcs, hc⟩ := hname
  cases clause with
  | term name value =>
    refine ⟨c, cs ++ ':' :: '"' :: value.formatted.toList.flatMap escapeQuote, '"', ?_, hc, by decide⟩
    have hcs : name.toList = c :: cs := hcs
    rw [Clause.chars, hcs, quoteScalar, quoteChars]
    simp only [List.cons_append, List.append_assoc]
  | range name lower upper =>
    refine ⟨c, cs ++ ':' :: '[' :: Clause.boundChars lower ++ " TO ".toList ++ Clause.boundChars upper, ']', ?_,
      hc, by decide⟩
    have hcs : name.toList = c :: cs := hcs
    rw [Clause.chars, hcs]
    simp only [List.cons_append, List.append_assoc]

theorem exists_joinChars_eq {f : Filter} (h : ∀ clause ∈ f, clause.Asks) (hsome : f ≠ []) :
    ∃ c body last, Filter.joinChars f = c :: body ++ [last] ∧ startsName c = true ∧ isBlank last = false := by
  induction f with
  | nil => exact absurd rfl hsome
  | cons clause f ih =>
    obtain ⟨c, body, last, hchars, hc, hlast⟩ := exists_chars_eq (h clause List.mem_cons_self)
    cases f with
    | nil => exact ⟨c, body, last, hchars, hc, hlast⟩
    | cons next f =>
      obtain ⟨d, more, last', hmore, -, hlast'⟩ :=
        ih (fun d hd => h d (List.mem_cons_of_mem clause hd)) (List.cons_ne_nil next f)
      refine ⟨c, body ++ [last] ++ " AND ".toList ++ d :: more, last', ?_, hc, hlast'⟩
      rw [Filter.joinChars, hchars, hmore]
      · simp only [List.cons_append, List.append_assoc]
      · exact List.cons_ne_nil next f

/-- A conjunction of clauses that ask for texts is read as itself. -/
theorem filter?_joinChars {f : Filter} (h : ∀ clause ∈ f, clause.AsksText) (hsome : f ≠ []) :
    filter? (Filter.joinChars f) = some f := by
  obtain ⟨c, body, last, hchars, hc, -⟩ := exists_joinChars_eq (fun clause hclause => (h clause hclause).asks) hsome
  have hstar : Filter.everything.isPrefixOf (skip (Filter.joinChars f)) = false := by
    rw [hchars, List.cons_append, skip_cons (isSkipped_of_startsName hc)]
    have hne : ('*' == c) = false := beq_false_of_ne (by rintro rfl; cases hc)
    show ('*' == c && _) = false
    rw [hne, Bool.false_and]
  rw [filter?, hstar]
  exact clauses?_joinChars h hsome (length_le_joinChars f)

end Grammar

end TripleIndex
