import TripleIndex.Proofs.Join.Pulls

/-!
Draining a cursor. Every pull of a cursor with answers before it delivers the first of them and leaves the
others, and the pull after the last one ends the cursor, so all answers come in the order of the loops.
-/

namespace TripleIndex

namespace Cursor

variable {ix : Index} {k : Course} {c : Cursor} {s : Surroundings}

theorem Offers.drainFrom (h : c.Offers ix k s) (hk : k.fault = none) {fuel : Nat} (hfuel : c.workLeft < fuel) :
    (drainFrom fuel none c s).answers = k.answers ∧ (drainFrom fuel none c s).stop = .exhausted := by
  -- each answer takes work away, so the fuel lasts until the end
  induction fuel generalizing k c s with
  | zero => exact absurd hfuel (Nat.not_lt_zero _)
  | succ fuel ih =>
    rw [Cursor.drainFrom, if_neg (by simp)]
    rcases h.next_cases with ⟨b, past, later, c', s', rfl, hpast, hanswers, hnext, hoffers, -, hwork⟩ |
      ⟨hempty, c', s', hnext, -, -⟩
    · rw [Course.andThen_eq hpast] at hk ⊢
      obtain ⟨hlater, hstop⟩ := ih hoffers hk (by omega)
      simp only [hnext, hanswers, Option.map_none, List.singleton_append]
      exact ⟨congrArg (b :: ·) hlater, hstop⟩
    · rw [hk] at hnext
      rw [hnext, hempty]
      exact ⟨rfl, rfl⟩

/-- At its beginning the walk has less work than the cursor has pulls. -/
theorem Waits.workLeft_begun (h : c.Waits) {driver : Candidates} {below : List Candidates}
    (hsteps : c.steps = driver :: below) : c.begun.workLeft < c.pullsLeft := by
  have hleft : (Level.paged driver below).left = driver.ids.size := Nat.zero_add _
  have hbegun : c.begun.workLeft = Level.work (.paged driver below) := by
    rw [workLeft, begun, h.lookahead, hsteps]
    rfl
  have hpulls : c.pullsLeft = planWork (driver :: below) + 1 := by
    rw [pullsLeft, h.started, h.lookahead, hsteps]
    rfl
  rw [hbegun, hpulls, Level.work, hleft]
  exact Nat.lt_succ_self _

theorem drain_steps {driver : Candidates} {below : List Candidates} {n : Int} (hn : 1 ≤ n) (owns : Bool)
    (hreader : s.reader = .opened ix) (hgoing : s.cancelled = false) (htime : s.context.HasTime)
    (hloops : (planLoops (.opened ix) (driver :: below)).fault = none) :
    (drain ⟨driver :: below, .rows n hn, owns, [], none, none, false, false⟩ none s).answers =
        (planLoops (.opened ix) (driver :: below)).answers ∧
      (drain ⟨driver :: below, .rows n hn, owns, [], none, none, false, false⟩ none s).stop = .exhausted := by
  obtain ⟨c, hc⟩ : ∃ c : Cursor, c = ⟨driver :: below, .rows n hn, owns, [], none, none, false, false⟩ :=
    ⟨_, rfl⟩
  rw [← hc]
  have hwaits : c.Waits := by
    rw [hc]
    exact ⟨rfl, rfl, rfl, rfl⟩
  have hoffers := hwaits.offers_begun (by rw [hc]) (by rw [hc]) hreader hgoing htime
  have hdrain : c.drain none s = Cursor.drainFrom c.pullsLeft none c.begun { s with context := c.running s.context } := by
    obtain ⟨fuel, hfuel⟩ : ∃ fuel, c.pullsLeft = fuel + 1 := ⟨_, rfl⟩
    rw [drain, hfuel, Cursor.drainFrom, Cursor.drainFrom, if_neg (by simp), if_neg (by simp), hwaits.next_begun]
  rw [hdrain]
  exact hoffers.drainFrom hloops (hwaits.workLeft_begun (by rw [hc]))

end Cursor

end TripleIndex
