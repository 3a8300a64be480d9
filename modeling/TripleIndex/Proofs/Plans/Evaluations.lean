import TripleIndex.Proofs.Outcome
import TripleIndex.Proofs.Plans.Sorting
import TripleIndex.Query.Planner

/-!
What planning makes of a list of patterns. However many workers evaluate them, every pattern has its result
at its own position, the same as alone but for the position, and the plan is their order.
-/

namespace TripleIndex

namespace Candidates

/-- The results of patterns, numbered from a position on. -/
def evaluateFrom (registry : Registry) (r : Reader) (graph : Option Term) (position : Nat)
    (ps : List Pattern) : List Candidates :=
  (ps.zipIdx position).map fun (p, i) => evaluate registry r graph p i

variable {registry : Registry} {r : Reader} {graph : Option Term}

theorem evaluate_position (registry : Registry) (r : Reader) (graph : Option Term) (p : Pattern)
    (i j : Nat) :
    evaluate registry r graph p i = { evaluate registry r graph p j with position := .int i } := by
  unfold evaluate
  cases compile registry p graph with
  | error e => rfl
  | ok f =>
    dsimp only
    cases r.evaluate f none <;> rfl

theorem evaluateFrom_cons (position : Nat) (p : Pattern) (ps : List Pattern) :
    evaluateFrom registry r graph position (p :: ps) =
      evaluate registry r graph p position :: evaluateFrom registry r graph (position + 1) ps := rfl

theorem evaluateFrom_append (position : Nat) (ps qs : List Pattern) :
    evaluateFrom registry r graph position (ps ++ qs) =
      evaluateFrom registry r graph position ps ++ evaluateFrom registry r graph (position + ps.length) qs := by
  rw [evaluateFrom, List.zipIdx_append, List.map_append]
  rfl

theorem evaluateFrom_eq_nil {position : Nat} {ps : List Pattern} :
    evaluateFrom registry r graph position ps = [] ↔ ps = [] := by
  rw [evaluateFrom, List.map_eq_nil_iff, List.zipIdx_eq_nil_iff]

end Candidates

namespace Evaluation

open Candidates

theorem all_ofPatternsFrom (atOnce : Bool) (registry : Registry) (r : Reader) (graph : Option Term)
    (position : Nat) (ps : List Pattern) :
    (ofPatternsFrom atOnce registry r graph position ps).all =
      if ps.all Pattern.isWritable then .ok (evaluateFrom registry r graph position ps)
      else .error .unwritableInteger := by
  have hcons : ∀ (c : Candidates) (rest : Evaluation),
      (⟨c :: rest.results, rest.fault⟩ : Evaluation).all = rest.all.map (c :: ·) := by
    intro c rest
    rw [Evaluation.all, Evaluation.all]
    cases rest.fault <;> rfl
  induction ps generalizing position with
  | nil => rfl
  | cons p ps ih =>
    rw [ofPatternsFrom, List.all_cons, evaluateFrom_cons]
    cases p.isWritable with
    | false => cases atOnce <;> rfl
    | true =>
      rw [Bool.true_and]
      refine (hcons _ _).trans ?_
      rw [ih]
      split <;> rfl

theorem all_ofPatterns (workers : JsonValue) (registry : Registry) (r : Reader) (graph : Option Term)
    (ps : List Pattern) :
    (ofPatterns workers registry r graph ps).all =
      if ps.all Pattern.isWritable then .ok (evaluateFrom registry r graph 0 ps)
      else .error .unwritableInteger := all_ofPatternsFrom ..

end Evaluation

namespace Plan

open Candidates

variable {ρ : Type}

theorem make_eq (workers : JsonValue) (registry : Registry) (r : Reader) (name : ρ) {ps : List Pattern}
    (hps : ps ≠ []) (graph : Term) :
    make workers registry r name ps graph =
      if ps.all Pattern.isWritable then
        (graphName graph).map fun text => order (evaluateFrom registry r (some graph) 0 ps) (some text) (some name)
      else .error .unwritableInteger := by
  rw [make, Evaluation.all_ofPatterns]
  split
  · rw [ok_bind, ofResults, if_neg]
    rw [List.isEmpty_iff, evaluateFrom_eq_nil]
    exact hps
  · rfl

end Plan

end TripleIndex
