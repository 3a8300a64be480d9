import TripleIndex.Proofs.Join.Correctness

/-!
The cursor and the recursion agree. A cursor walks with a stack, a page and an answer at a time, and it may
be asked in any way: what it delivers are the answers of the loops of its plan in their order, and what it
has counted at its end is their work.
-/

namespace TripleIndex

namespace Cursor

variable {ρ : Type}

/-- The context of a query whose loops have come to their end. -/
def contextAtEnd (patterns : Nat) (k : Course) : Context where
  timeout := none
  state := if k.fault.isSome then .failed else .completed
  started := true
  scanned := k.visited
  returned := k.answers.length
  patterns := patterns
  joins := k.joins
  error := k.fault.map fun f => (reported f).message

theorem concluded_fresh {c : Cursor} (k : Course) :
    concluded ((c.running (.fresh none)).after k) (k.fault.map reported) = contextAtEnd c.steps.length k := by
  cases hfault : k.fault with
  | none => simp [concluded, running, Context.fresh, Context.start, Context.recordPatterns, Context.after,
      Context.complete, contextAtEnd, hfault]
  | some f => simp [concluded, running, Context.fresh, Context.start, Context.recordPatterns, Context.after,
      failContext, Context.fail, contextAtEnd, hfault]

/-- Calls of a cursor in any order reply as a queue of the answers of the loops does, each walk settles,
and at the end all answers have been delivered and the work of the loops has been counted. The size of the
pages makes no difference. -/
theorem calls_planLoops (ix : Index) {plan : Plan ρ} (hplan : plan.isEmpty = false) {n : Int} (hn : 1 ≤ n)
    (owns : Bool) :
    ∃ c, make plan true (.ofInt n) owns = .ok c ∧ ∀ pulls,
      let run := c.calls ⟨.opened ix, .fresh none, false⟩ pulls
      let k := planLoops (.opened ix) plan.steps
      run.1 = replies (k.fault.map reported) k.answers pulls ∧
      run.1.filterMap Reply.answer? = k.answers.take (pulls.count .next) ∧
      run.2.1.PullSettles run.2.2 ∧
      (run.1.any Reply.isLast = true →
        run.1.filterMap Reply.answer? = k.answers ∧ run.2.2.context = contextAtEnd plan.size k) := by
  refine ⟨_, make_eq plan hn owns, ?_⟩
  rw [hplan]
  obtain ⟨c, hc⟩ : ∃ c : Cursor, c = ⟨plan.steps, .rows n hn, owns, [], none, none, false, false⟩ := ⟨_, rfl⟩
  rw [← hc]
  have hwaits : c.Waits := by
    rw [hc]
    exact ⟨rfl, rfl, rfl, rfl⟩
  have hsteps : c.steps = plan.steps := by rw [hc]
  intro pulls run k
  -- the replies and the context come from the run of calls, and what they deliver follows from the replies
  suffices h : run.1 = replies (k.fault.map reported) k.answers pulls ∧
      (run.1.any Reply.isLast = true → run.2.2.context = contextAtEnd plan.size k) by
    obtain ⟨hreplies, hcontext⟩ := h
    refine ⟨hreplies, ?_, pull_settles _ _, fun hlast => ⟨?_, hcontext hlast⟩⟩
    · rw [hreplies]
      exact answers_replies k.answers pulls
    · rw [hreplies] at hlast ⊢
      exact answers_replies_of_last hlast
  cases pulls with
  | nil =>
    have hrun : run.1 = [] := rfl
    rw [hrun]
    refine ⟨?_, fun hlast => by cases hlast⟩
    cases k.answers <;> rfl
  | cons pull pulls =>
    cases hdriver : plan.steps with
    | nil =>
      rw [Plan.isEmpty, hdriver] at hplan
      cases hplan
    | cons driver below =>
      have htime : (Context.fresh none).HasTime := by simp [Context.HasTime, Context.fresh]
      have hreader : (⟨.opened ix, .fresh none, false⟩ : Surroundings).reader = .opened ix := rfl
      have hoffers := hwaits.offers_begun (hsteps.trans hdriver) (by rw [hc]) hreader rfl htime
      rw [← hdriver] at hoffers
      obtain ⟨hreplies, hcontext⟩ := hoffers.calls_eq (pull :: pulls)
      have hrun : run = c.begun.calls ⟨.opened ix, c.running (.fresh none), false⟩ (pull :: pulls) :=
        hwaits.calls_begun _ pull pulls
      rw [hrun]
      refine ⟨hreplies, fun hlast => ?_⟩
      rw [hcontext hlast, concluded_fresh, hsteps]
      rfl

/-- Who knows somebody that knows themselves, the patterns in this order. -/
def orderedPlanOfKnows (ix : Index) : Plan Unit :=
  .joined ([knows "x" "y", knows "y" "y"].zipIdx.map fun (p, position) =>
    .evaluate .default (.opened ix) (some (.iri "urn:g")) p position) none none

theorem calls_planLoops_knows : ∃ ix, acquaintances = .ok ix ∧ (orderedPlanOfKnows ix).isEmpty = false ∧
    (planLoops (.opened ix) (orderedPlanOfKnows ix).steps).answers =
      [[("x", .iri "urn:a"), ("y", .iri "urn:b")], [("x", .iri "urn:b"), ("y", .iri "urn:b")]] ∧
    ∃ c, make (orderedPlanOfKnows ix) true (.ofInt 1) false = .ok c ∧ ∀ pulls,
      let run := c.calls ⟨.opened ix, .fresh none, false⟩ pulls
      let k := planLoops (.opened ix) (orderedPlanOfKnows ix).steps
      run.1 = replies (k.fault.map reported) k.answers pulls ∧
      run.1.filterMap Reply.answer? = k.answers.take (pulls.count .next) ∧
      run.2.1.PullSettles run.2.2 ∧
      (run.1.any Reply.isLast = true →
        run.1.filterMap Reply.answer? = k.answers ∧
        run.2.2.context = contextAtEnd (orderedPlanOfKnows ix).size k) := by
  have hrun : (acquaintances.toOption.any fun ix => !(orderedPlanOfKnows ix).isEmpty &&
      decide ((planLoops (.opened ix) (orderedPlanOfKnows ix).steps).answers =
        [[("x", .iri "urn:a"), ("y", .iri "urn:b")], [("x", .iri "urn:b"), ("y", .iri "urn:b")]])) = true := by
    decide +kernel
  cases hix : acquaintances with
  | error e =>
    rw [hix] at hrun
    cases hrun
  | ok ix =>
    rw [hix] at hrun
    obtain ⟨hplan, hanswers⟩ := Bool.and_eq_true_iff.1 hrun
    have hplan : (orderedPlanOfKnows ix).isEmpty = false := by simpa using hplan
    exact ⟨ix, rfl, hplan, of_decide_eq_true hanswers, calls_planLoops ix hplan (by decide) false⟩

end Cursor

end TripleIndex
