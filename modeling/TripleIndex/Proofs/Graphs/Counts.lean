import Mathlib.Algebra.BigOperators.Group.List.Lemmas
import Mathlib.Data.List.Nodup
import TripleIndex.Proofs.Graphs.Steps

/-!
Graphs listed, counted and cleared. The graphs that are listed are those of the documents, as the values of the
context field are the forms of their names; the count of a graph is that of the documents with its form; and to
clear a graph removes just these.
-/

namespace TripleIndex

/-! ## Lists -/

section Lists

variable {α β ε : Type}

theorem mapM_eq_ok_of_forall₂ {f : α → Except ε β} {xs : List α} {ys : List β}
    (h : List.Forall₂ (fun x y => f x = .ok y) xs ys) : xs.mapM f = .ok ys := by
  induction h with
  | nil => rfl
  | cons hfirst _ ih =>
    rw [List.mapM_cons, hfirst, ok_bind, ih]
    rfl

theorem exists_forall₂ {R : α → β → Prop} {xs : List α} (h : ∀ x ∈ xs, ∃ y, R x y) :
    ∃ ys, List.Forall₂ R xs ys := by
  induction xs with
  | nil => exact ⟨[], .nil⟩
  | cons x xs ih =>
    obtain ⟨⟨y, hy⟩, hrest⟩ := List.forall_mem_cons.1 h
    obtain ⟨ys, hys⟩ := ih hrest
    exact ⟨y :: ys, .cons hy hys⟩

theorem sum_count_eq_length [DecidableEq α] {values xs : List α} (hnodup : values.Nodup)
    (hmem : ∀ x, x ∈ values ↔ x ∈ xs) : (values.map fun x => xs.count x).sum = xs.length := by
  have hperm : values.Perm xs.dedup := by
    refine (List.perm_ext_iff_of_nodup hnodup xs.nodup_dedup).2 fun x => ?_
    rw [hmem, List.mem_dedup]
  rw [(hperm.map _).sum_eq, List.sum_map_count_dedup_eq_length]

end Lists

namespace Store

variable {quadruples : List Quadruple} {s after : Store} {form : String} {g : Option Term}

/-! ## Counts -/

def contexts (s : Store) : List Scalar := s.index.contents.filterMap fun e => e.2.lookup Field.context

/-- How many documents have a form in their context field. -/
def population (s : Store) (form : String) : Nat := s.contexts.count (.text form)

variable {registry : Registry}

theorem mem_contexts (h : s.Maintained registry) {v : Scalar} :
    v ∈ s.contexts ↔ ∃ q d, s.index.at? q = some d ∧ d.lookup Field.context = some v := by
  rw [contexts, List.mem_filterMap, Prod.exists]
  simp only [h.index.sound.mem_contents]

theorem length_scan_inGraph (s : Store) (form : String) :
    (s.index.contents.scan Schema.triples (inGraph form)).length = s.population form := by
  rw [population, contexts, List.count, List.countP_filterMap, Contents.scan, ← List.countP_eq_length_filter]
  refine List.countP_congr fun e _ => ?_
  rw [holds_inGraph]
  cases e.2.lookup Field.context <;> simp

theorem isProper_inGraph (form : String) : (inGraph form).IsProper :=
  List.forall_mem_singleton.2 (show (Scalar.text form).IsProper from trivial)

theorem suits_inGraph (form : String) : (inGraph form).Suits Schema.triples :=
  List.forall_mem_singleton.2 (Clause.suits_term (Clause.convert_text rfl form))

theorem count_eq (h : s.Maintained registry) (hform : graphForm (some (s.graph g)) = .ok form)
    (htab : '\t' ∉ form.toList) : s.count g = .ok (s.population form) := by
  obtain ⟨after, hdelete, -⟩ := h.index.agrees_delete (isProper_inGraph form) (suits_inGraph form)
  obtain ⟨selected, heval, -, hsize⟩ := Index.delete_eq_ok hdelete
  rw [count, graphText_eq hform, ok_bind, Index.count, ofText_inGraph htab, ok_bind, heval, ok_bind, hsize,
    length_scan_inGraph]
  rfl

theorem exists_form_of_count {n : Nat} (h : s.count g = .ok n) : ∃ form, graphForm (some (s.graph g)) = .ok form := by
  obtain ⟨text, htext, -⟩ := bind_eq_ok.1 h
  obtain ⟨form, hform, -⟩ := map_eq_ok.1 htext
  exact ⟨form, hform⟩

/-- To clear a graph removes as many documents as it has, and leaves none of them. -/
theorem clear_eq (h : s.Maintained registry) (hform : graphForm (some (s.graph g)) = .ok form)
    (htab : '\t' ∉ form.toList) : ∃ ix, s.clear g = ({ s with index := ix }, .ok (s.population form)) ∧
      ({ s with index := ix } : Store).population form = 0 := by
  obtain ⟨ix, hdelete, hcontents⟩ := h.index.agrees_delete (isProper_inGraph form) (suits_inGraph form)
  refine ⟨ix, ?_, ?_⟩
  · have hindex : s.index.deleteText (inGraph form).text = (ix, .ok (s.population form)) := by
      rw [Index.deleteText, ofText_inGraph htab, ← length_scan_inGraph]
      exact hdelete
    rw [clear, graphText_eq hform, removeText]
    dsimp only
    rw [hindex]
    rfl
  · rw [← length_scan_inGraph, List.length_eq_zero_iff, Contents.scan, hcontents, List.filter_filter]
    simp

/-! ## Listings -/

/-- A value of the context field and the name that it is listed as. -/
inductive ListsAs : Scalar → Term → Prop
  | name {form : String} {name : Term} (htab : '\t' ∉ form.toList) (hname : name.isName = true)
    (hform : name.form = .ok form) : ListsAs (.text form) name

theorem ofForm_form_of_isName {name : Term} (hname : name.isName = true) (h : name.form = .ok form) :
    Term.ofForm form = .ok name := by
  cases name with
  | iri value => exact Term.ofForm_form_iri h
  | blank label => exact Term.ofForm_form_blank h
  | _ => cases hname

theorem biUnique_listsAs : Relator.BiUnique ListsAs := by
  constructor
  · rintro v w name ⟨-, -, hform⟩ ⟨-, -, hform'⟩
    exact congrArg Scalar.text (Except.ok.inj (hform.symm.trans hform'))
  · rintro v name name' ⟨-, hname, hform⟩ ⟨-, hname', hform'⟩
    exact Except.ok.inj ((ofForm_form_of_isName hname hform).symm.trans (ofForm_form_of_isName hname' hform'))

theorem Within.graphs_eq (h : s.Within quadruples) : ∃ vs names, s.graphs = .ok names ∧
    List.Forall₂ ListsAs vs names ∧ vs.Nodup ∧ ∀ v, v ∈ vs ↔ v ∈ s.contexts := by
  obtain ⟨vs, hvs, hnodup, htexts, hmem⟩ := h.distinctValues Field.context rfl
  have hnames : ∀ v ∈ vs, ∃ name, ListsAs v name ∧ Term.ofForm v.plain = .ok name := by
    intro v hv
    obtain ⟨form, rfl⟩ := htexts v hv
    obtain ⟨q, d, hd, hcontext⟩ := (hmem _).1 hv
    obtain ⟨triple, g, hg, hdocument⟩ := h.made q d hd
    have hform := (forms_of_document hdocument).1
    cases hcontext.symm.trans (h.lookup_context hd)
    obtain ⟨name, hname, hnameForm, hread⟩ := Term.ofForm_graphForm hform
    exact ⟨name, .name ((Term.isUntabbed_iff hform).1 hg) hname hnameForm, hread⟩
  obtain ⟨names, hlisted⟩ := exists_forall₂ hnames
  refine ⟨vs, names, ?_, hlisted.imp fun _ _ h => h.1, hnodup, fun v => ?_⟩
  · rw [graphs, hvs, ok_bind]
    exact mapM_eq_ok_of_forall₂ (hlisted.imp fun _ _ h => h.2)
  · rw [hmem, mem_contexts h.reachable.maintained]

/-- The documents of a store fall into the graphs that it lists. -/
structure Partitioned (s : Store) : Prop where
  /-- Listed are the graphs with a triple, each once, and their counts add up to the size. -/
  listed : ∃ names counts, s.graphs = .ok names ∧ names.Nodup ∧
    (∀ g, g ∈ names ↔ g.isName = true ∧ g.isUntabbed = true ∧ ∃ n, s.count (some g) = .ok n ∧ 1 ≤ n) ∧
    names.mapM (fun g => s.count (some g)) = .ok counts ∧ counts.sum = s.size
  /-- As many triples are cleared as there are, and then the graph is not listed. -/
  cleared : ∀ g form, graphForm (some (s.graph g)) = .ok form → '\t' ∉ form.toList → ∃ n after names,
    s.count g = .ok n ∧ s.clear g = (after, .ok n) ∧ after.count g = .ok 0 ∧
    after.graphs = .ok names ∧ ∀ name ∈ names, ¬ name.SameGraph (s.graph g)

variable {vs : List Scalar} {names : List Term}

theorem ListsAs.count_eq {v : Scalar} {name : Term} (h : s.Maintained registry) (hname : ListsAs v name) :
    s.count (some name) = .ok (s.contexts.count v) := by
  obtain ⟨htab, hisName, hform⟩ := hname
  exact Store.count_eq h ((Term.graphForm_of_isName hisName).trans hform) htab

theorem mem_names_iff (h : s.Maintained registry) (hlists : List.Forall₂ ListsAs vs names)
    (hmem : ∀ v, v ∈ vs ↔ v ∈ s.contexts) (g : Term) :
    g ∈ names ↔ g.isName = true ∧ g.isUntabbed = true ∧ ∃ n, s.count (some g) = .ok n ∧ 1 ≤ n := by
  constructor
  · intro hg
    obtain ⟨v, hv, hname⟩ := exists_mem_of_forall₂ hlists.flip hg
    have hcount := hname.count_eq h
    obtain ⟨htab, hisName, hform⟩ := hname
    have hgraph := (Term.graphForm_of_isName hisName).trans hform
    exact ⟨hisName, (Term.isUntabbed_iff hgraph).2 htab, _, hcount, List.count_pos_iff.2 ((hmem _).1 hv)⟩
  · rintro ⟨hisName, huntabbed, n, hcount, hpos⟩
    obtain ⟨form, hgraph⟩ := exists_form_of_count hcount
    have hname : ListsAs (.text form) g := .name ((Term.isUntabbed_iff hgraph).1 huntabbed) hisName
      ((Term.graphForm_of_isName hisName).symm.trans hgraph)
    rw [hname.count_eq h, Except.ok.injEq] at hcount
    have hv : Scalar.text form ∈ vs := (hmem _).2 (List.count_pos_iff.1 (hcount ▸ hpos))
    obtain ⟨name, hlisted, hlistsAs⟩ := exists_mem_of_forall₂ hlists hv
    rwa [biUnique_listsAs.2 hname hlistsAs]

/-- Every document has one of the values that are listed, so the counts add up. -/
theorem Within.sum_counts (h : s.Within quadruples) (hnodup : vs.Nodup) (hmem : ∀ v, v ∈ vs ↔ v ∈ s.contexts) :
    (vs.map fun v => s.contexts.count v).sum = s.size := by
  have hsome : ∀ e ∈ s.index.contents, (e.2.lookup Field.context).isSome = true := by
    rintro ⟨q, d⟩ he
    rw [h.lookup_context (h.reachable.maintained.index.sound.mem_contents.1 he), Option.isSome_some]
  rw [sum_count_eq_length hnodup hmem, contexts, List.length_filterMap_eq_countP, List.countP_eq_length.2 hsome]
  exact List.length_map ..

theorem Within.listed (h : s.Within quadruples) : ∃ names counts, s.graphs = .ok names ∧ names.Nodup ∧
    (∀ g, g ∈ names ↔ g.isName = true ∧ g.isUntabbed = true ∧ ∃ n, s.count (some g) = .ok n ∧ 1 ≤ n) ∧
    names.mapM (fun g => s.count (some g)) = .ok counts ∧ counts.sum = s.size := by
  have hmaintained := h.reachable.maintained
  obtain ⟨vs, names, hgraphs, hlists, hnodup, hmem⟩ := h.graphs_eq
  refine ⟨names, _, hgraphs, (List.rel_nodup biUnique_listsAs hlists).1 hnodup,
    mem_names_iff hmaintained hlists hmem, ?_, h.sum_counts hnodup hmem⟩
  refine mapM_eq_ok_of_forall₂ (List.forall₂_map_right_iff.2 (hlists.flip.imp fun name v hname => ?_))
  exact hname.count_eq hmaintained

theorem Within.partitioned (h : s.Within quadruples) : s.Partitioned := by
  refine ⟨h.listed, fun g form hform htab => ?_⟩
  have hmaintained := h.reachable.maintained
  obtain ⟨ix, hclear, hnone⟩ := clear_eq hmaintained hform htab
  have hwithin := (h.step_clear ((Term.isUntabbed_iff hform).2 htab)).within
  rw [hclear] at hwithin
  obtain ⟨names, -, hgraphs, -, hlisted, -⟩ := hwithin.listed
  refine ⟨_, _, names, count_eq hmaintained hform htab, hclear, ?_, hgraphs, fun name hname => ?_⟩
  · rw [count_eq hwithin.reachable.maintained hform htab, hnone]
  · rintro ⟨form', hform', hsame⟩
    cases hform.symm.trans hsame
    obtain ⟨-, -, n, hcount, hpos⟩ := (hlisted name).1 hname
    have hzero : ({ s with index := ix } : Store).count (some name) = .ok 0 := by
      rw [← hnone]
      exact count_eq hwithin.reachable.maintained hform' htab
    cases hzero.symm.trans hcount
    exact absurd hpos (by decide)

end Store

end TripleIndex
