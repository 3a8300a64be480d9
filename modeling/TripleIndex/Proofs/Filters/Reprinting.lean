import TripleIndex.Proofs.Filters.Tabs

/-!
Texts of filter queries that have been read. Whatever way a clause is written, it is read as one that asks a field of
the grammar for a text, or for a range between texts, and no tab is left in these. So the query is printed in the one
way that quotes all its texts, and that text is read as the same query.
-/

namespace TripleIndex

/-- A clause that a text can be read as: all its values are texts without tabs. -/
inductive Clause.IsRead : Clause → Prop
  | term {name value : String} (hname : isFieldName name = true) (hvalue : '\t' ∉ value.toList) :
    IsRead (.term name (.text value))
  | range {name : String} {lower upper : Option String} (hname : isFieldName name = true)
      (hlower : ∀ value ∈ lower, '\t' ∉ value.toList) (hupper : ∀ value ∈ upper, '\t' ∉ value.toList) :
    IsRead (.range name (lower.map .text) (upper.map .text))

namespace Clause.IsRead

variable {clause read : Clause}

theorem asks (h : clause.IsRead) : clause.Asks := by
  cases h with
  | term hname _ => exact hname
  | range hname _ _ => exact hname

theorem bound_eq {bound : Option String} {back : Option Scalar} (hbound : ∀ value ∈ bound, '\t' ∉ value.toList)
    (h : BoundReadBack (bound.map .text) back) : back = bound.map .text := by
  cases bound with
  | none =>
    cases h
    rfl
  | some value =>
    cases h with
    | value hspread => rw [String.toList_inj.1 (hspread.eq_of_notMem (hbound value rfl)), Scalar.formatted_text]; rfl

theorem eq_of_readBack (h : clause.IsRead) (hback : clause.ReadBack read) : read = clause := by
  cases h with
  | term _ hvalue =>
    cases hback with
    | term _ hspread => rw [String.toList_inj.1 (hspread.eq_of_notMem hvalue), Scalar.formatted_text]
  | range _ hlower hupper =>
    cases hback with
    | range _ hlower' hupper' => rw [bound_eq hlower hlower', bound_eq hupper hupper']

end Clause.IsRead

/-! ## What is left of a text -/

namespace Grammar

variable {c : Char} {cs rest value : List Char}

theorem skip_subset (cs : List Char) : skip cs ⊆ cs := (List.dropWhile_sublist isSkipped).subset

theorem token?_subset (h : token? c cs = some rest) : rest ⊆ cs := by
  unfold token? at h
  split at h
  · cases h
  · next d after hskip =>
    obtain ⟨-, h⟩ := Option.ite_none_right_eq_some.1 h
    cases h
    exact List.Subset.trans (hskip ▸ List.subset_cons_self d rest) (skip_subset cs)

theorem afterWord?_subset {word : List Char} (h : afterWord? word cs = some rest) : rest ⊆ cs := by
  induction word generalizing cs with
  | nil =>
    unfold afterWord? at h
    split at h
    · cases h
    · cases h
      exact List.Subset.refl _
  | cons w word ih =>
    cases cs with
    | nil => cases h
    | cons c cs =>
      obtain ⟨-, h⟩ := Option.ite_none_right_eq_some.1 h
      exact List.Subset.trans (ih h) (List.subset_cons_self c cs)

theorem keyword?_subset {word : List Char} (h : keyword? word cs = some rest) : rest ⊆ cs :=
  List.Subset.trans (afterWord?_subset h) (skip_subset cs)

theorem name?_eq_some {name : List Char} (h : name? cs = some (name, rest)) :
    isFieldName (String.ofList name) = true ∧ rest ⊆ cs := by
  unfold name? at h
  split at h
  · cases h
  · next c after hskip =>
    obtain ⟨hstarts, h⟩ := Option.ite_none_right_eq_some.1 h
    cases h
    refine ⟨?_, fun d hd => skip_subset cs (hskip ▸ List.mem_cons_of_mem c ?_)⟩
    · rw [isFieldName, String.toList_ofList]
      exact Bool.and_eq_true_iff.2 ⟨hstarts, List.all_takeWhile⟩
    · exact (List.dropWhile_sublist continuesName).subset hd

theorem subset_of_map_cons {after : List Char} {read : Option (List Char × List Char)}
    (hread : ∀ {value rest}, read = some (value, rest) → value ⊆ after ∧ rest ⊆ after) (hc : c ∈ cs)
    (hafter : after ⊆ cs) (h : read.map (fun x => (c :: x.1, x.2)) = some (value, rest)) :
    value ⊆ cs ∧ rest ⊆ cs := by
  obtain ⟨⟨more, left⟩, hmore, heq⟩ := Option.map_eq_some_iff.1 h
  cases heq
  obtain ⟨hvalue, hrest⟩ := hread hmore
  exact ⟨List.cons_subset.2 ⟨hc, List.Subset.trans hvalue hafter⟩, List.Subset.trans hrest hafter⟩

theorem quotedRest?_subset (h : quotedRest? cs = some (value, rest)) : value ⊆ cs ∧ rest ⊆ cs := by
  induction cs using quotedRest?.induct generalizing value rest with
  | case1 => cases h
  | case2 => cases h
  | case3 after =>
    cases h
    exact ⟨List.nil_subset _, List.subset_cons_self _ _⟩
  | case4 c after ih =>
    rw [quotedRest?] at h
    exact subset_of_map_cons ih (by simp) (by simp) h
  | case5 c after hnone hquote hback ih =>
    rw [quotedRest?] at h
    · exact subset_of_map_cons ih List.mem_cons_self (List.subset_cons_self c after) h
    all_goals assumption

theorem quoted?_subset (h : quoted? cs = some (value, rest)) : value ⊆ cs ∧ rest ⊆ cs := by
  obtain ⟨after, hafter, h⟩ := Option.bind_eq_some_iff.1 h
  obtain ⟨hvalue, hrest⟩ := quotedRest?_subset h
  exact ⟨List.Subset.trans hvalue (token?_subset hafter), List.Subset.trans hrest (token?_subset hafter)⟩

theorem word?_subset {refused : Char → Bool} (h : word? refused cs = some (value, rest)) :
    value ⊆ cs ∧ rest ⊆ cs := by
  obtain ⟨-, h⟩ := Option.ite_none_left_eq_some.1 h
  cases h
  exact ⟨List.Subset.trans (List.takeWhile_sublist _).subset (skip_subset cs),
    List.Subset.trans (List.dropWhile_sublist _).subset (skip_subset cs)⟩

theorem value?_subset (h : value? cs = some (value, rest)) : value ⊆ cs ∧ rest ⊆ cs := by
  unfold value? at h
  split at h
  · next r hquoted =>
    cases h
    exact quoted?_subset hquoted
  · obtain ⟨-, h⟩ := Option.ite_none_left_eq_some.1 h
    exact word?_subset h

theorem bound?_subset {bound : Option (List Char)} (h : bound? cs = some (bound, rest)) :
    (∀ value ∈ bound, value ⊆ cs) ∧ rest ⊆ cs := by
  unfold bound? at h
  split at h
  · next after hstar =>
    cases h
    exact ⟨by simp, token?_subset hstar⟩
  split at h
  · next value after hquoted =>
    cases h
    obtain ⟨hvalue, hrest⟩ := quoted?_subset hquoted
    exact ⟨by simpa using hvalue, hrest⟩
  · obtain ⟨⟨value, after⟩, hword, heq⟩ := Option.map_eq_some_iff.1 h
    cases heq
    obtain ⟨hvalue, hrest⟩ := word?_subset hword
    exact ⟨by simpa using hvalue, hrest⟩

theorem range?_subset {lower upper : Option (List Char)} (h : range? cs = some ((lower, upper), rest)) :
    (∀ value ∈ lower, value ⊆ cs) ∧ (∀ value ∈ upper, value ⊆ cs) ∧ rest ⊆ cs := by
  obtain ⟨opened, hopen, h⟩ := Option.bind_eq_some_iff.1 h
  obtain ⟨⟨first, between⟩, hfirst, h⟩ := Option.bind_eq_some_iff.1 h
  obtain ⟨after, hto, h⟩ := Option.bind_eq_some_iff.1 h
  obtain ⟨⟨second, closing⟩, hsecond, h⟩ := Option.bind_eq_some_iff.1 h
  obtain ⟨closed, hclose, h⟩ := Option.bind_eq_some_iff.1 h
  cases h
  have hopened := token?_subset hopen
  obtain ⟨hlower, hbetween⟩ := bound?_subset hfirst
  have hafter := List.Subset.trans (keyword?_subset hto) (List.Subset.trans hbetween hopened)
  obtain ⟨hupper, hclosing⟩ := bound?_subset hsecond
  exact ⟨fun value hvalue => List.Subset.trans (hlower value hvalue) hopened,
    fun value hvalue => List.Subset.trans (hupper value hvalue) hafter,
    List.Subset.trans (token?_subset hclose) (List.Subset.trans hclosing hafter)⟩

/-! ## What is read -/

/-- A clause of a text without tabs is one whose values have none, however it is written. -/
theorem isRead_of_clause? {clause : Clause} (h : clause? cs = some (clause, rest)) (htab : '\t' ∉ cs) :
    clause.IsRead ∧ rest ⊆ cs := by
  obtain ⟨⟨name, afterName⟩, hname, h⟩ := Option.bind_eq_some_iff.1 h
  obtain ⟨afterColon, hcolon, h⟩ := Option.bind_eq_some_iff.1 h
  obtain ⟨hfield, hafterName⟩ := name?_eq_some hname
  have hafter := List.Subset.trans (token?_subset hcolon) hafterName
  have huntabbed : ∀ value ⊆ afterColon, '\t' ∉ (String.ofList value).toList := by
    intro value hvalue
    rw [String.toList_ofList]
    exact fun hmem => htab (hafter (hvalue hmem))
  dsimp only at h
  split at h
  · next lower upper after hrange =>
    cases h
    obtain ⟨hlower, hupper, hrest⟩ := range?_subset hrange
    have hbound : ∀ bound : Option (List Char), bound.map textOf = (bound.map String.ofList).map .text :=
      fun bound => (Option.map_map ..).symm
    rw [hbound, hbound]
    exact ⟨.range hfield (by simpa using fun value hvalue => huntabbed value (hlower value hvalue))
      (by simpa using fun value hvalue => huntabbed value (hupper value hvalue)), List.Subset.trans hrest hafter⟩
  · obtain ⟨⟨value, after⟩, hvalue, h⟩ := Option.bind_eq_some_iff.1 h
    cases h
    obtain ⟨hvalue, hrest⟩ := value?_subset hvalue
    exact ⟨.term hfield (huntabbed value hvalue), List.Subset.trans hrest hafter⟩

theorem isRead_of_clauses? {steps : Nat} {f : Filter} (h : clauses? steps cs = some f) (htab : '\t' ∉ cs) :
    ∀ clause ∈ f, clause.IsRead := by
  -- what is left behind a clause is part of the text, so there is no tab in it either
  induction steps generalizing cs f with
  | zero => cases h
  | succ steps ih =>
    obtain ⟨⟨clause, rest⟩, hclause, h⟩ := Option.bind_eq_some_iff.1 h
    obtain ⟨hread, hrest⟩ := isRead_of_clause? hclause htab
    dsimp only at h
    split at h
    · cases h
      simpa using hread
    · obtain ⟨after, hand, h⟩ := Option.bind_eq_some_iff.1 h
      obtain ⟨more, hmore, h⟩ := Option.bind_eq_some_iff.1 h
      cases h
      have hafter := List.Subset.trans (keyword?_subset hand) hrest
      exact List.forall_mem_cons.2 ⟨hread, ih hmore fun hmem => htab (hafter hmem)⟩

theorem isRead_of_filter? {f : Filter} (h : filter? cs = some f) (htab : '\t' ∉ cs) :
    ∀ clause ∈ f, clause.IsRead := by
  unfold filter? at h
  dsimp only at h
  split at h
  · obtain ⟨-, h⟩ := Option.ite_none_right_eq_some.1 h
    cases h
    simp
  · exact isRead_of_clauses? h htab

end Grammar

namespace Filter

variable {f : Filter} {text : String}

theorem ofText_eq_ok : ofText text = .ok f ↔
    trim text.toList ≠ [] ∧ Grammar.filter? (Grammar.expandTabs (trim text.toList)) = some f := by
  unfold ofText
  dsimp only
  split
  · next hempty => simp [List.isEmpty_iff.1 hempty]
  · next hsome =>
    rw [List.isEmpty_iff] at hsome
    split <;> simp_all

/-- No tab is left in what is read, between quotes or elsewhere. -/
theorem isRead_of_ofText (h : ofText text = .ok f) : ∀ clause ∈ f, clause.IsRead :=
  Grammar.isRead_of_filter? (ofText_eq_ok.1 h).2 (Spread.expandTabsFrom 0 _).notMem

theorem eq_of_readBack {reads : Filter} (h : ∀ clause ∈ f, clause.IsRead)
    (hback : List.Forall₂ Clause.ReadBack f reads) : reads = f := by
  induction hback with
  | nil => rfl
  | cons hclause _ ih =>
    obtain ⟨hread, hrest⟩ := List.forall_mem_cons.1 h
    rw [hread.eq_of_readBack hclause, ih hrest]

/-- What has been read is printed as a text that is read as the same query. -/
theorem ofText_text_of_ofText (h : ofText text = .ok f) :
    (∀ clause ∈ f, clause.IsRead) ∧ ofText f.text = .ok f := by
  have hread := isRead_of_ofText h
  refine ⟨hread, ?_⟩
  by_cases hsome : f = []
  · rw [hsome]
    rfl
  · obtain ⟨reads, hreads, hback⟩ := ofText_text (fun clause hclause => (hread clause hclause).asks) hsome
    rw [hreads, eq_of_readBack hread hback]

/-- The query of a text that is not printed in the way it is written. -/
def loose : Filter :=
  [.term "a" (.text "*x"), .range "B_1" none (some (.text "c\"     ")), .term "_" (.text "*")]

/-- Bare words, a star, a keyword in small letters and a tab between quotes, in a text that is printed otherwise. -/
theorem ofText_text_of_ofText_loose : ofText " a : *x\tand B_1:[* tO \"\\c\\\"\t\"]\nAnd _:* " = .ok loose ∧
    (∀ clause ∈ loose, clause.IsRead) ∧ ofText loose.text = .ok loose := by
  have hread : ofText " a : *x\tand B_1:[* tO \"\\c\\\"\t\"]\nAnd _:* " = .ok loose :=
    ofText_eq_ok.2 ⟨by decide +kernel, by decide +kernel⟩
  exact ⟨hread, ofText_text_of_ofText hread⟩

end Filter

end TripleIndex
