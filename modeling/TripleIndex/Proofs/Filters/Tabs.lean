import Mathlib.Data.List.Forall2
import TripleIndex.Proofs.Filters.Reading

/-!
Tabs in the texts of filter queries. Before the text is read a tab becomes spaces, between quotes too. So
each clause is read with the text of its value, in which spaces stand for the tabs, and the value is read
back as it is when its text has no tab.
-/

namespace TripleIndex

variable {c : Char} {cs ds xs ys zs : List Char}

/-- A text with one to eight spaces for each of its tabs. -/
inductive Spread : List Char → List Char → Prop
  | nil : Spread [] []
  | keep {c : Char} {cs ds : List Char} (hc : c ≠ '\t') (h : Spread cs ds) : Spread (c :: cs) (c :: ds)
  | tab {cs ds : List Char} {more : Nat} (hmore : more < 8) (h : Spread cs ds) :
    Spread ('\t' :: cs) (List.replicate (more + 1) ' ' ++ ds)

namespace Spread

theorem expandTabsFrom (column : Nat) (cs : List Char) : Spread cs (Grammar.expandTabsFrom column cs) := by
  induction cs generalizing column with
  | nil => exact nil
  | cons c cs ih =>
    rw [Grammar.expandTabsFrom]
    split
    · next hc =>
      have hwidth : 8 - column % 8 = 7 - column % 8 + 1 := by
        have := Nat.mod_lt column (show 0 < 8 by decide)
        omega
      rw [hc, hwidth]
      exact tab (by omega) (ih 0)
    · next hc => exact keep hc (ih _)

theorem eq_of_notMem (h : Spread cs ds) (htab : '\t' ∉ cs) : ds = cs := by
  induction h with
  | nil => rfl
  | keep _ _ ih => rw [ih fun hmem => htab (List.mem_cons_of_mem _ hmem)]
  | tab => exact absurd List.mem_cons_self htab

theorem notMem (h : Spread cs ds) : '\t' ∉ ds := by
  induction h with
  | nil => exact List.not_mem_nil
  | keep hc _ ih =>
    intro hmem
    rcases List.mem_cons.1 hmem with heq | hmem
    · exact hc heq.symm
    · exact ih hmem
  | tab _ _ ih =>
    intro hmem
    rcases List.mem_append.1 hmem with hspace | hmem
    · exact absurd (List.eq_of_mem_replicate hspace) (by decide)
    · exact ih hmem

theorem of_append (h : Spread (xs ++ ys) zs) : ∃ xs' ys', zs = xs' ++ ys' ∧ Spread xs xs' ∧ Spread ys ys' := by
  induction xs generalizing zs with
  | nil => exact ⟨[], zs, rfl, nil, h⟩
  | cons c xs ih =>
    cases h with
    | keep hc h =>
      obtain ⟨xs', ys', rfl, hxs, hys⟩ := ih h
      exact ⟨c :: xs', ys', rfl, keep hc hxs, hys⟩
    | tab hmore h =>
      obtain ⟨xs', ys', rfl, hxs, hys⟩ := ih h
      exact ⟨_ ++ xs', ys', (List.append_assoc ..).symm, tab hmore hxs, hys⟩

theorem of_append_of_notMem (h : Spread (xs ++ ys) zs) (htab : '\t' ∉ xs) : ∃ ys', zs = xs ++ ys' ∧ Spread ys ys' := by
  obtain ⟨xs', ys', rfl, hxs, hys⟩ := h.of_append
  exact ⟨ys', by rw [hxs.eq_of_notMem htab], hys⟩

theorem flatMap_escapeQuote_spaces (count : Nat) :
    (List.replicate count ' ').flatMap escapeQuote = List.replicate count ' ' := by
  induction count with
  | zero => rfl
  | succ count ih =>
    rw [List.replicate_succ, List.flatMap_cons, ih]
    rfl

theorem flatMap_escapeQuote (h : Spread (cs.flatMap escapeQuote) zs) :
    ∃ ds, zs = ds.flatMap escapeQuote ∧ Spread cs ds := by
  -- an escape has no tab in it, so what is spread are tabs of the text itself
  induction cs generalizing zs with
  | nil =>
    cases h
    exact ⟨[], rfl, nil⟩
  | cons c cs ih =>
    rw [List.flatMap_cons] at h
    by_cases hc : c = '\t'
    · obtain ⟨front, rest, rfl, hfront, hrest⟩ := h.of_append
      obtain ⟨ds, rfl, hds⟩ := ih hrest
      rw [hc] at hfront ⊢
      obtain ⟨more, hmore, rfl⟩ : ∃ more, more < 8 ∧ front = List.replicate (more + 1) ' ' ++ [] := by
        rcases hfront with _ | hne | ⟨hmore, ⟨⟩⟩
        · exact absurd rfl hne
        · exact ⟨_, hmore, rfl⟩
      refine ⟨List.replicate (more + 1) ' ' ++ ds, ?_, tab hmore hds⟩
      rw [List.append_nil, List.flatMap_append, flatMap_escapeQuote_spaces]
    · have hnone : '\t' ∉ escapeQuote c := by
        rw [escapeQuote]
        split
        · decide
        split
        · decide
        · exact fun hmem => hc (List.mem_singleton.1 hmem).symm
      obtain ⟨rest, rfl, hrest⟩ := h.of_append_of_notMem hnone
      obtain ⟨ds, rfl, hds⟩ := ih hrest
      exact ⟨c :: ds, List.flatMap_cons.symm, keep hc hds⟩

end Spread

/-- A bound as it is read back: an open side stays open. -/
inductive BoundReadBack : Option Scalar → Option Scalar → Prop
  | opened : BoundReadBack none none
  | value {value : Scalar} {text : String} (h : Spread value.formatted.toList text.toList) :
    BoundReadBack (some value) (some (.text text))

/-- A clause as it is read back: its values are texts with spaces for the tabs. -/
inductive Clause.ReadBack : Clause → Clause → Prop
  | term {name : String} {value : Scalar} {text : String} (hname : isFieldName name = true)
      (h : Spread value.formatted.toList text.toList) : ReadBack (.term name value) (.term name (.text text))
  | range {name : String} {lower upper lower' upper' : Option Scalar} (hname : isFieldName name = true)
      (hlower : BoundReadBack lower lower') (hupper : BoundReadBack upper upper') :
    ReadBack (.range name lower upper) (.range name lower' upper')

theorem BoundReadBack.exists_eq {bound read : Option Scalar} (h : BoundReadBack bound read) :
    ∃ text : Option String, read = text.map .text := by
  cases h with
  | opened => exact ⟨none, rfl⟩
  | value h => exact ⟨some _, rfl⟩

theorem Clause.ReadBack.asksText {clause read : Clause} (h : clause.ReadBack read) : read.AsksText := by
  cases h with
  | term hname h => exact .term _ hname
  | range hname hlower hupper =>
    obtain ⟨lower, rfl⟩ := hlower.exists_eq
    obtain ⟨upper, rfl⟩ := hupper.exists_eq
    exact .range lower upper hname

theorem asksText_of_readBack {f reads : Filter} (h : List.Forall₂ Clause.ReadBack f reads) :
    ∀ read ∈ reads, read.AsksText := by
  induction h with
  | nil => simp
  | cons hread _ ih => exact List.forall_mem_cons.2 ⟨hread.asksText, ih⟩

theorem tab_notMem_of_isFieldName {name : String} (h : isFieldName name = true) : '\t' ∉ name.toList := by
  unfold isFieldName at h
  split at h
  · next hname =>
    rw [hname]
    exact List.not_mem_nil
  · next c cs hname =>
    rw [hname]
    rw [Bool.and_eq_true] at h
    intro hmem
    rcases List.mem_cons.1 hmem with rfl | hmem
    · exact absurd h.1 (by decide)
    · exact absurd (List.all_eq_true.1 h.2 _ hmem) (by decide)

theorem Clause.chars_term (name : String) (value : Scalar) : (Clause.term name value).chars =
    (name.toList ++ [':', '"']) ++ (value.formatted.toList.flatMap escapeQuote ++ ['"']) := by
  simp [chars, quoteScalar, quoteChars]

theorem tab_mem_flatMap_escapeQuote : '\t' ∈ cs.flatMap escapeQuote ↔ '\t' ∈ cs := by
  have hescape : ∀ c, '\t' ∈ escapeQuote c ↔ c = '\t' := by
    intro c
    rw [escapeQuote]
    split
    · next h => simp [h]
    split
    · next h => simp [h]
    · simp [eq_comm]
  simp only [List.mem_flatMap, hescape]
  constructor
  · rintro ⟨c, hc, rfl⟩
    exact hc
  · exact fun h => ⟨'\t', h, rfl⟩

theorem Clause.tab_mem_chars_term {name : String} (hname : isFieldName name = true) (value : Scalar) :
    '\t' ∈ (Clause.term name value).chars ↔ '\t' ∈ value.formatted.toList := by
  have hnone := tab_notMem_of_isFieldName hname
  rw [chars_term, List.mem_append, List.mem_append, List.mem_append, tab_mem_flatMap_escapeQuote]
  simp [hnone]

theorem Spread.of_quoteScalar {value : Scalar} (h : Spread (quoteScalar value) zs) :
    ∃ text : String, Spread value.formatted.toList text.toList ∧ zs = quoteScalar (.text text) := by
  have hchars : quoteScalar value =
      ['"'] ++ (value.formatted.toList.flatMap escapeQuote ++ ['"']) := rfl
  rw [hchars] at h
  obtain ⟨rest, rfl, hrest⟩ := h.of_append_of_notMem (by decide)
  obtain ⟨body, close, rfl, hbody, hclose⟩ := hrest.of_append
  obtain ⟨ds, rfl, hds⟩ := hbody.flatMap_escapeQuote
  obtain rfl := hclose.eq_of_notMem (by decide)
  refine ⟨String.ofList ds, by rwa [String.toList_ofList], ?_⟩
  rw [quoteScalar, quoteChars, Scalar.formatted_text, String.toList_ofList]
  rfl

theorem Spread.of_boundChars {bound : Option Scalar} (h : Spread (Clause.boundChars bound) zs) :
    ∃ read, BoundReadBack bound read ∧ zs = Clause.boundChars read := by
  cases bound with
  | none => exact ⟨none, .opened, h.eq_of_notMem (by decide)⟩
  | some value =>
    obtain ⟨text, htext, rfl⟩ := Spread.of_quoteScalar h
    exact ⟨some (.text text), .value htext, rfl⟩

theorem Spread.clause {clause : Clause} (hclause : clause.Asks) (h : Spread clause.chars zs) :
    ∃ read, clause.ReadBack read ∧ zs = read.chars := by
  have hname := tab_notMem_of_isFieldName hclause
  cases clause with
  | term name value =>
    have hname : '\t' ∉ name.toList := hname
    have hchars : (Clause.term name value).chars = (name.toList ++ [':']) ++ quoteScalar value := by
      rw [Clause.chars, List.append_assoc]
      rfl
    rw [hchars] at h
    obtain ⟨rest, rfl, hrest⟩ := h.of_append_of_notMem (by simpa using hname)
    obtain ⟨text, htext, rfl⟩ := hrest.of_quoteScalar
    refine ⟨.term name (.text text), .term hclause htext, ?_⟩
    rw [Clause.chars, List.append_assoc]
    rfl
  | range name lower upper =>
    have hname : '\t' ∉ name.toList := hname
    have hchars : ∀ lower upper : Option Scalar, (Clause.range name lower upper).chars =
        (name.toList ++ [':', '[']) ++
          (Clause.boundChars lower ++ (" TO ".toList ++ (Clause.boundChars upper ++ [']']))) := by
      intro lower upper
      simp only [Clause.chars, List.append_assoc, List.cons_append, List.nil_append]
    rw [hchars] at h
    obtain ⟨rest, rfl, hrest⟩ := h.of_append_of_notMem (by simpa using hname)
    obtain ⟨first, rest, rfl, hfirst, hto⟩ := hrest.of_append
    obtain ⟨rest, rfl, hmore⟩ := hto.of_append_of_notMem (by decide)
    obtain ⟨second, close, rfl, hsecond, hclose⟩ := hmore.of_append
    obtain ⟨lower', hlower, rfl⟩ := hfirst.of_boundChars
    obtain ⟨upper', hupper, rfl⟩ := hsecond.of_boundChars
    obtain rfl := hclose.eq_of_notMem (by decide)
    exact ⟨.range name lower' upper', .range hclause hlower hupper, (hchars lower' upper').symm⟩

theorem Spread.joinChars {f : Filter} (hf : ∀ clause ∈ f, clause.Asks) (h : Spread (Filter.joinChars f) zs) :
    ∃ read, List.Forall₂ Clause.ReadBack f read ∧ zs = Filter.joinChars read := by
  -- the word between two clauses has no tab and stays as it is
  induction f generalizing zs with
  | nil =>
    cases h
    exact ⟨[], .nil, rfl⟩
  | cons clause f ih =>
    have hclause := hf clause List.mem_cons_self
    have hrest := fun d hd => hf d (List.mem_cons_of_mem clause hd)
    cases f with
    | nil =>
      obtain ⟨read, hread, rfl⟩ := Spread.clause hclause h
      exact ⟨[read], .cons hread .nil, rfl⟩
    | cons next f =>
      rw [Filter.joinChars, List.append_assoc] at h
      · obtain ⟨front, rest, rfl, hfront, hmore⟩ := h.of_append
        obtain ⟨more, rfl, hspread⟩ := hmore.of_append_of_notMem (by decide)
        obtain ⟨read, hread, rfl⟩ := Spread.clause hclause hfront
        obtain ⟨reads, hreads, rfl⟩ := ih hrest hspread
        refine ⟨read :: reads, .cons hread hreads, ?_⟩
        have hnone : reads ≠ [] := by
          rintro rfl
          cases hreads
        rw [Filter.joinChars, List.append_assoc]
        exact hnone
      · exact List.cons_ne_nil next f

theorem tab_mem_joinChars {f : Filter} : '\t' ∈ Filter.joinChars f ↔ ∃ clause ∈ f, '\t' ∈ clause.chars := by
  induction f with
  | nil => simp [Filter.joinChars]
  | cons clause f ih =>
    cases f with
    | nil => simp [Filter.joinChars]
    | cons next f =>
      rw [Filter.joinChars, List.mem_append, List.mem_append, ih, List.exists_mem_cons_iff]
      · simp
      · exact List.cons_ne_nil next f

theorem Filter.toList_text {f : Filter} (hsome : f ≠ []) : f.text.toList = joinChars f := by
  obtain ⟨clause, more, rfl⟩ := List.exists_cons_of_ne_nil hsome
  exact String.toList_ofList

/-- The text of a query is read as the clauses with spaces for the tabs of their values. -/
theorem Filter.ofText_text {f : Filter} (hf : ∀ clause ∈ f, clause.Asks) (hsome : f ≠ []) :
    ∃ read, Filter.ofText f.text = .ok read ∧ List.Forall₂ Clause.ReadBack f read := by
  obtain ⟨c, body, last, hchars, hc, hlast⟩ := Grammar.exists_joinChars_eq hf hsome
  obtain ⟨read, hread, hexpanded⟩ := Spread.joinChars hf (Spread.expandTabsFrom 0 (joinChars f))
  have htrim : trim (joinChars f) = joinChars f := by
    rw [hchars]
    exact trim_cons_append (Grammar.isBlank_of_startsName hc) hlast
  have hnone : read ≠ [] := by
    rintro rfl
    cases hread
    exact hsome rfl
  have hasks := asksText_of_readBack hread
  refine ⟨read, ?_, hread⟩
  rw [ofText, toList_text hsome, htrim, Grammar.expandTabs, hexpanded, Grammar.filter?_joinChars hasks hnone, hchars]
  rfl

end TripleIndex
