import TripleIndex.Proofs.Join.Order
import TripleIndex.Proofs.Plans.Evaluations
import TripleIndex.Proofs.Stores.Refusals

/-!
Failures among patterns. A pattern that cannot be compiled or evaluated fails on its own: its result says
so and has no documents, and those of the others are what they would be without it, in whatever order the
results come in. The plan has nothing exactly when there is no pattern or one of them has no documents, and
otherwise its steps are the results by their number of documents and their position. All this needs is that
the patterns and the graph can be written, since the report of a failure names them.
-/

namespace TripleIndex

def selected (registry : Registry) (r : Reader) (graph : Option Term) (p : Pattern) : Except Fault IdSet := do
  r.evaluate (← compile registry p graph) none

namespace Candidates

/-- What the result of a pattern at a position has to be. -/
structure IsResultOf (registry : Registry) (r : Reader) (graph : Option Term) (p : Pattern) (position : Nat)
    (c : Candidates) : Prop where
  pattern : c.pattern = some p
  position : c.position = .int position
  query : c.query = (compile registry p graph).toOption
  fails : ∀ f, selected registry r graph p = .error f → c.error ≠ none ∧ c.ids = .empty
  selects : ∀ ids, selected registry r graph p = .ok ids → c.error = none ∧ c.ids = ids

/-- The order of two steps of a plan. -/
def Before (a b : Candidates) : Prop :=
  a.cardinality < b.cardinality ∨ a.cardinality = b.cardinality ∧
    ∃ i j : Nat, a.position = .int i ∧ b.position = .int j ∧ i < j

variable {registry : Registry} {r : Reader} {graph : Option Term}

theorem isResultOf_evaluate (registry : Registry) (r : Reader) (graph : Option Term) (p : Pattern)
    (position : Nat) : IsResultOf registry r graph p position (evaluate registry r graph p position) := by
  unfold evaluate
  cases hcompile : compile registry p graph with
  | error e =>
    have hselected : selected registry r graph p = .error e := by
      rw [selected, hcompile]
      rfl
    refine ⟨rfl, rfl, by rw [hcompile]; rfl, fun f _ => ⟨by simp, rfl⟩, fun ids hids => ?_⟩
    cases hselected.symm.trans hids
  | ok f =>
    have hselected : selected registry r graph p = r.evaluate f none := by
      rw [selected, hcompile]
      rfl
    dsimp only
    cases hevaluate : r.evaluate f none with
    | error e =>
      refine ⟨rfl, rfl, by rw [hcompile]; rfl, fun f _ => ⟨by simp, rfl⟩, fun ids hids => ?_⟩
      cases hids.symm.trans (hselected.trans hevaluate)
    | ok ids =>
      refine ⟨rfl, rfl, by rw [hcompile]; rfl, fun f hf => ?_, fun ids' hids => ⟨rfl, ?_⟩⟩
      · cases hf.symm.trans (hselected.trans hevaluate)
      · cases hids.symm.trans (hselected.trans hevaluate)
        rfl

theorem IsResultOf.ids_of_failed {p : Pattern} {position : Nat} {c : Candidates}
    (h : IsResultOf registry r graph p position c) (hfailed : c.failed = true) : c.ids = .empty := by
  cases hselected : selected registry r graph p with
  | error f => exact (h.fails f hselected).2
  | ok ids =>
    rw [failed, (h.selects ids hselected).1] at hfailed
    cases hfailed

theorem getElem?_evaluateFrom (position : Nat) (ps : List Pattern) (i : Nat) :
    (evaluateFrom registry r graph position ps)[i]? =
      (ps[i]?).map (evaluate registry r graph · (position + i)) := by
  rw [evaluateFrom, List.getElem?_map, List.getElem?_zipIdx, Option.map_map]
  rfl

theorem length_evaluateFrom (position : Nat) (ps : List Pattern) :
    (evaluateFrom registry r graph position ps).length = ps.length := by
  rw [evaluateFrom, List.length_map, List.length_zipIdx]

theorem isResultOf_of_getElem? {ps : List Pattern} {i : Nat} {c : Candidates}
    (h : (evaluateFrom registry r graph 0 ps)[i]? = some c) :
    ∃ p, ps[i]? = some p ∧ IsResultOf registry r graph p i c := by
  rw [getElem?_evaluateFrom, Nat.zero_add] at h
  obtain ⟨p, hp, rfl⟩ := Option.map_eq_some_iff.1 h
  exact ⟨p, hp, isResultOf_evaluate registry r graph p i⟩

theorem pairwise_positions (ps : List Pattern) : (evaluateFrom registry r graph 0 ps).Pairwise fun a b =>
    ∃ i j : Nat, a.position = .int i ∧ b.position = .int j ∧ i < j := by
  rw [List.pairwise_iff_getElem]
  intro i j hi hj hij
  obtain ⟨_, -, hfirst⟩ := isResultOf_of_getElem? (List.getElem?_eq_getElem hi)
  obtain ⟨_, -, hsecond⟩ := isResultOf_of_getElem? (List.getElem?_eq_getElem hj)
  exact ⟨i, j, hfirst.position, hsecond.position, hij⟩

end Candidates

namespace Evaluation

open Candidates

variable (registry : Registry) (r : Reader) (graph : Option Term) (ps : List Pattern)

/-! ## Results as they come in -/

def isWritableAt (place : Nat) : Bool := (ps[place]?).all Pattern.isWritable

/-- Results to which those of some places have come in. -/
def arrived (places : List Nat) (results : List (Option Candidates)) : List (Option Candidates) :=
  results.mapIdx fun i c => if i ∈ places then (ps[i]?).map (evaluate registry r graph · i) else c

theorem arrived_set {place : Nat} {p : Pattern} (hp : ps[place]? = some p) (places : List Nat)
    (results : List (Option Candidates)) :
    arrived registry r graph ps places (results.set place (some (evaluate registry r graph p place))) =
      arrived registry r graph ps (place :: places) results := by
  refine List.ext_getElem? fun i => ?_
  rw [arrived, arrived, List.getElem?_mapIdx, List.getElem?_mapIdx]
  by_cases hi : place = i
  · subst hi
    rw [List.getElem?_set_self', Option.map_eq_map, Option.map_map, hp]
    refine congrArg (Option.map · results[place]?) (funext fun c => ?_)
    simp
  · rw [List.getElem?_set_ne hi]
    refine congrArg (Option.map · results[i]?) (funext fun c => ?_)
    simp only [List.mem_cons, Ne.symm hi, false_or]

/-- Each result is put where it belongs, until one pattern cannot be written. -/
theorem foldlM_complete {order : List Nat} (horder : ∀ i ∈ order, i < ps.length)
    (results : List (Option Candidates)) :
    order.foldlM (complete registry r graph ps) results =
      if order.all (isWritableAt ps) then .ok (arrived registry r graph ps order results)
      else .error .unwritableInteger := by
  -- what comes in first is there when the next one comes, so the results vary
  induction order generalizing results with
  | nil =>
    rw [List.foldlM_nil, List.all_nil, if_pos rfl, arrived]
    simp only [List.not_mem_nil, if_false]
    refine congrArg Except.ok (List.ext_getElem? fun i => ?_)
    rw [List.getElem?_mapIdx, Option.map_id']
  | cons place order ih =>
    have hplace := horder place List.mem_cons_self
    have hp : ps[place]? = some ps[place] := List.getElem?_eq_getElem hplace
    have hwritable : isWritableAt ps place = ps[place].isWritable := by rw [isWritableAt, hp]; rfl
    rw [List.foldlM_cons, complete, hp, List.all_cons, hwritable]
    dsimp only
    cases ps[place].isWritable with
    | false => rfl
    | true =>
      rw [if_pos rfl, ok_bind, ih fun i hi => horder i (List.mem_cons_of_mem _ hi), Bool.true_and,
        arrived_set registry r graph ps hp]

theorem ofCompletions_eq (workers : JsonValue) {order : List Nat} (horder : order.Perm (List.range ps.length)) :
    ofCompletions registry r graph ps order =
      (ofPatterns workers registry r graph ps).all.map (·.map some) := by
  have hmem : ∀ i, i ∈ order ↔ i < ps.length := fun i => horder.mem_iff.trans List.mem_range
  have hwritable : order.all (isWritableAt ps) = ps.all Pattern.isWritable := by
    rw [Bool.eq_iff_iff, List.all_eq_true, List.all_eq_true]
    constructor
    · intro h p hp
      obtain ⟨i, hi, rfl⟩ := List.getElem_of_mem hp
      have hplace := h i ((hmem i).2 hi)
      rwa [isWritableAt, List.getElem?_eq_getElem hi] at hplace
    · intro h i hi
      have hi := (hmem i).1 hi
      rw [isWritableAt, List.getElem?_eq_getElem hi]
      exact h _ (List.getElem_mem hi)
  rw [ofCompletions, foldlM_complete registry r graph ps (fun i hi => (hmem i).1 hi), hwritable, all_ofPatterns]
  split
  · refine congrArg Except.ok (List.ext_getElem? fun i => ?_)
    rw [arrived, List.getElem?_mapIdx, List.getElem?_map, getElem?_evaluateFrom, Nat.zero_add,
      List.getElem?_replicate]
    by_cases hi : i < ps.length
    · rw [if_pos hi, List.getElem?_eq_getElem hi]
      simp only [Option.map_some, hmem, hi, if_true]
    · rw [if_neg hi, List.getElem?_eq_none (Nat.le_of_not_lt hi)]
      rfl
  · rfl

end Evaluation

/-! ## Plans -/

namespace Plan

open Candidates

variable {ρ : Type}

theorem graphName_eq_ok {graph : Term} (h : graph.isWritable = true) : ∃ text, graphName graph = .ok text := by
  rw [graphName]
  cases graphForm (some graph) with
  | ok form => exact ⟨form, rfl⟩
  | error e => exact ⟨_, by rw [Term.written, written, if_pos h]⟩

section Order

variable {registry : Registry} {r : Reader} {graph : Option Term} {ps : List Pattern} {text : String} {name : ρ}

theorem order_eq_nothing : order (evaluateFrom registry r graph 0 ps) (some text) (some name) = nothing ↔
    ps = [] ∨ ∃ c ∈ evaluateFrom registry r graph 0 ps, c.failed = true ∨ c.ids = .empty := by
  have hempty : ∀ c ∈ evaluateFrom registry r graph 0 ps,
      (c.failed = true ∨ c.ids = .empty ↔ c.cardinality = 0) := by
    intro c hc
    obtain ⟨i, hi⟩ := List.mem_iff_getElem?.1 hc
    obtain ⟨p, -, hresult⟩ := isResultOf_of_getElem? hi
    rw [cardinality_eq_zero]
    exact ⟨fun h => h.elim hresult.ids_of_failed id, .inr⟩
  have hnothing : order (evaluateFrom registry r graph 0 ps) (some text) (some name) = nothing ↔
      isVoid (evaluateFrom registry r graph 0 ps) = true := by
    rw [order_eq]
    split
    · next hvoid => exact iff_of_true rfl hvoid
    · next hfull => exact iff_of_false (fun h => by cases h) hfull
  rw [hnothing, isVoid_eq_true, evaluateFrom_eq_nil]
  exact or_congr_right (exists_congr fun c => and_congr_right fun hc => (hempty c hc).symm)

theorem order_of_ne_nothing
    (h : order (evaluateFrom registry r graph 0 ps) (some text) (some name) ≠ nothing) :
    (order (evaluateFrom registry r graph 0 ps) (some text) (some name)).reader = some name ∧
      (order (evaluateFrom registry r graph 0 ps) (some text) (some name)).steps.Perm
        (evaluateFrom registry r graph 0 ps) ∧
      (order (evaluateFrom registry r graph 0 ps) (some text) (some name)).steps.Pairwise Before := by
  rw [order_eq] at h ⊢
  split at h
  · exact absurd rfl h
  · next hfull =>
    rw [if_neg hfull]
    exact ⟨rfl, sorted_perm _, pairwise_sorted_ties (pairwise_positions ps)⟩

end Order

end Plan

namespace Evaluation

open Candidates

/-- Every pattern of a list has its own result, however it fares and in whatever order the results come in,
and the plan joins all of them or is the one without an answer. -/
theorem isolates_failures {ρ : Type} (workers : JsonValue) (registry : Registry) (r : Reader)
    (name : ρ) {ps : List Pattern} (hps : ∀ p ∈ ps, p.isWritable = true) :
    (∀ graph : Option Term, ∃ results, (ofPatterns workers registry r graph ps).all = .ok results ∧
      (∀ order : List Nat, order.Perm (List.range ps.length) →
        ofCompletions registry r graph ps order = .ok (results.map some)) ∧
      results.length = ps.length ∧
      ∀ (i : Nat) (p : Pattern) (c : Candidates), ps[i]? = some p → results[i]? = some c →
        c.IsResultOf registry r graph p i ∧
          (ofPatterns workers registry r graph [p]).all = .ok [{ c with position := .int 0 }]) ∧
    ∀ graph : Term, graph.isWritable = true →
      ∃ results plan, (ofPatterns workers registry r (some graph) ps).all = .ok results ∧
        Plan.make workers registry r name ps graph = .ok plan ∧
        (plan = .nothing ↔ ps = [] ∨ ∃ c ∈ results, c.failed = true ∨ c.ids = .empty) ∧
        (plan ≠ .nothing → plan.reader = some name ∧ plan.steps.Perm results ∧
          plan.steps.Pairwise Before) := by
  have hall : ps.all Pattern.isWritable = true := List.all_eq_true.2 hps
  have hresults : ∀ graph, (ofPatterns workers registry r graph ps).all =
      .ok (evaluateFrom registry r graph 0 ps) := by
    intro graph
    rw [all_ofPatterns, if_pos hall]
  refine ⟨fun graph => ⟨_, hresults graph, ?_, length_evaluateFrom 0 ps, ?_⟩, fun graph hgraph => ?_⟩
  · intro order horder
    rw [ofCompletions_eq registry r graph ps workers horder, hresults]
    rfl
  · intro i p c hp hc
    rw [getElem?_evaluateFrom, hp, Nat.zero_add] at hc
    cases hc
    refine ⟨isResultOf_evaluate registry r graph p i, ?_⟩
    have halone : [p].all Pattern.isWritable = true := by
      rw [List.all_cons, hps p (List.mem_of_getElem? hp)]
      rfl
    rw [all_ofPatterns, if_pos halone, evaluateFrom_cons, evaluate_position registry r graph p 0 i]
    rfl
  · obtain ⟨text, htext⟩ := Plan.graphName_eq_ok hgraph
    -- without patterns nothing is put in order and the graph is not named
    by_cases hnil : ps = []
    · subst hnil
      exact ⟨[], .nothing, rfl, rfl, iff_of_true rfl (.inl rfl), fun h => absurd rfl h⟩
    have hmake := Plan.make_eq workers registry r name hnil graph
    rw [if_pos hall, htext] at hmake
    exact ⟨_, _, hresults _, hmake, Plan.order_eq_nothing, Plan.order_of_ne_nothing⟩

/-- A pattern beside one with a subject that is no IRI. -/
def oneIllegal : List Pattern :=
  [⟨.var "s", .iri "urn:p", .var "o"⟩, ⟨.iri "urn: ", .iri "urn:p", .var "o"⟩]

/-- A pattern that cannot be compiled beside one that selects a document, whose result comes in last. -/
theorem isolates_failures_illegalIri : ∃ s results plan, storeOf [saying "urn:a" "urn:p" "x"] = .ok s ∧
    (ofPatterns s.settings.workers s.registry (.opened s.index) (some (s.graph none)) oneIllegal).all = .ok results ∧
    ofCompletions s.registry (.opened s.index) (some (s.graph none)) oneIllegal [1, 0] =
      .ok (results.map some) ∧
    results.map (fun c => (c.failed, c.cardinality)) = [(false, 1), (true, 0)] ∧
    Plan.make s.settings.workers s.registry (.opened s.index) () oneIllegal (s.graph none) = .ok plan ∧
    plan = .nothing := by
  have hrun : ((do
      let s ← storeOf [saying "urn:a" "urn:p" "x"]
      let results ← (ofPatterns s.settings.workers s.registry (.opened s.index) (some (s.graph none)) oneIllegal).all
      return ((s.graph none).isWritable, results.map fun c => (c.failed, c.cardinality))) :
        Except Fault (Bool × List (Bool × Nat))).toOption =
      some (true, [(false, 1), (true, 0)]) := by decide +kernel
  obtain ⟨s, hs, hrun⟩ := bind_eq_ok.1 (toOption_eq_some.1 hrun)
  obtain ⟨results, hresults, hrun⟩ := bind_eq_ok.1 hrun
  obtain ⟨hgraph, hfailed⟩ := Prod.mk.inj (Except.ok.inj hrun)
  obtain ⟨hevaluated, hplanned⟩ := isolates_failures s.settings.workers s.registry (.opened s.index) ()
    (show ∀ p ∈ oneIllegal, p.isWritable = true by decide +kernel)
  obtain ⟨results', hresults', hcompletions, -⟩ := hevaluated (some (s.graph none))
  cases hresults.symm.trans hresults'
  obtain ⟨results', plan, hresults', hplan, hnothing, -⟩ := hplanned (s.graph none) hgraph
  cases hresults.symm.trans hresults'
  refine ⟨s, results, plan, hs, hresults, hcompletions [1, 0] (by decide), hfailed, hplan, hnothing.2 (.inr ?_)⟩
  have hlast : (true, 0) ∈ results.map fun c => (c.failed, c.cardinality) := by
    rw [hfailed]
    decide
  obtain ⟨c, hc, heq⟩ := List.mem_map.1 hlast
  exact ⟨c, hc, .inl (congrArg Prod.fst heq)⟩

/-- A pattern that cannot be written fails the evaluation of all patterns, and with it the plan. -/
theorem isolates_failures_unwritten : ∃ s, Store.make .default .default = .ok s ∧
    (ofPatterns s.settings.workers s.registry (.opened s.index) (some (s.graph none)) [Store.unwritten]).all =
      .error .unwritableInteger ∧
    Plan.make s.settings.workers s.registry (.opened s.index) () [Store.unwritten] (s.graph none) =
      .error .unwritableInteger := by
  have hwritable : Store.unwritten.isWritable = false := by decide +kernel
  have hrun : (Store.make .default .default).toOption.isSome = true := by decide +kernel
  obtain ⟨s, hs⟩ := Option.isSome_iff_exists.1 hrun
  refine ⟨s, toOption_eq_some.1 hs, ?_, ?_⟩
  · rw [all_ofPatterns, List.all_cons, hwritable]
    rfl
  · rw [Plan.make_eq _ _ _ _ (List.cons_ne_nil _ _), List.all_cons, hwritable]
    rfl

end Evaluation

end TripleIndex
