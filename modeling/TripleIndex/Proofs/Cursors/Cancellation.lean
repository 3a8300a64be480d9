import TripleIndex.Proofs.Cursors.Circumstances

/-!
Cancellation. A query is looked at before every request to its reader, so a cursor whose query has been asked
to stop hands out at most the answer that it has looked ahead at, and the pull after that ends it. A walk that
is not over has a level to go on with, so that pull does look: it cannot come to an end of its own first.
-/

namespace TripleIndex

/-! ## The levels of a walk -/

theorem Trouble.descend_ne_found (t : Trouble) {moment later : Nat} {r : Reader} {next : Candidates}
    {below : List Candidates} {b found : Binding} {stack left : List Level} {c d : Context} :
    t.descend moment r next below b stack c ≠ (.found found left d, later) := by
  intro h
  unfold descend at h
  split at h
  · cases h
  dsimp only at h
  split at h
  · cases h
  split at h
  · cases h
  · cases h

namespace Circumstances

variable {w : Circumstances} {moment later : Nat} {r : Reader} {size : PageSize} {requested : Bool}
  {stack left : List Level} {c d : Context} {b : Binding}

theorem stack_of_visit {l : Level} {id : DocId}
    (h : w.visit moment r requested l id stack c = (.found b left d, later)) : left = stack := by
  unfold visit at h
  split at h
  · cases h
  split at h
  · cases h
  · cases h
  split at h
  · cases h
    rfl
  · exact absurd h (Trouble.descend_ne_found _)

theorem stack_ne_nil_of_walkStep (h : w.walkStep moment r size requested stack c = (.found b left d, later)) :
    left ≠ [] := by
  unfold walkStep at h
  split at h
  · cases h
  split at h
  · cases h
  split at h
  · cases h
  split at h
  · cases h
  · rw [stack_of_visit h]
    exact List.cons_ne_nil _ _

theorem stack_ne_nil_of_walk {fuel : Nat}
    (h : w.walk moment r size requested fuel stack c = (.found b left d, later)) : left ≠ [] := by
  induction fuel generalizing moment stack c with
  | zero => cases h
  | succ fuel ih =>
    unfold walk at h
    split at h
    · exact ih h
    · exact stack_ne_nil_of_walkStep h

end Circumstances

namespace Scene

/-- A cursor under way whose walk still has a level to go on with. -/
structure Unfinished (kept : Reader) (owns : Bool) (x : Scene) : Prop where
  underWay : x.UnderWay kept owns
  stack : (x.cursor.begin x.surroundings.context).1.stack ≠ []

variable {kept : Reader} {owns : Bool} {x : Scene}

theorem Unfinished.take (h : x.Unfinished kept owns) (p : Pull) : (p.take x).Unfinished kept owns := by
  refine ⟨h.underWay.take p, ?_⟩
  cases p with
  | hasNext => exact h.stack
  | next =>
    have hstack := h.stack
    rw [Cursor.begin_eq] at hstack ⊢
    exact hstack

theorem Unfinished.call (h : x.Unfinished kept owns) (w : Circumstances) (p : Pull)
    (hgoing : (w.call x p).1.isLast = false) : (w.call x p).2.Unfinished kept owns := by
  cases hlookahead : x.cursor.lookahead with
  | some b =>
    rw [h.underWay.call_of_lookahead hlookahead]
    exact h.take p
  | none =>
    rw [h.underWay.call_of_outcome hlookahead] at hgoing ⊢
    cases houtcome : w.outcome x with
    | mk progress moment =>
      rw [houtcome] at hgoing
      cases progress with
      | found b stack d =>
        have hfound : Unfinished kept owns ⟨{ (x.cursor.begin x.surroundings.context).1 with
            lookahead := some b, stack := stack }, { x.surroundings with context := d }, moment⟩ := by
          refine ⟨h.underWay.found b stack d moment, ?_⟩
          rw [Cursor.begin_eq, Cursor.begin_eq]
          exact Circumstances.stack_ne_nil_of_walk houtcome
        exact hfound.take p
      | failed f d => cases hgoing
      | ended d =>
        have hlast := p.isLast_atEnd none
        exact absurd (hgoing.symm.trans hlast) Bool.false_ne_true
      | onward stack d =>
        have hlast := p.isLast_atEnd none
        exact absurd (hgoing.symm.trans hlast) Bool.false_ne_true

/-- As long as no reply says that nothing more is to come, the walk has something to go on with. -/
theorem Unfinished.calls (h : x.Unfinished kept owns) (w : Circumstances) (pulls : List Pull)
    (hgoing : (w.calls x pulls).1.any Reply.isLast = false) : (w.calls x pulls).2.Unfinished kept owns := by
  induction pulls generalizing x with
  | nil => exact h
  | cons p pulls ih =>
    have hcalls : w.calls x (p :: pulls) =
        ((w.call x p).1 :: (w.calls (w.call x p).2 pulls).1, (w.calls (w.call x p).2 pulls).2) := rfl
    rw [hcalls] at hgoing ⊢
    rw [List.any_cons, Bool.or_eq_false_iff] at hgoing
    exact ih (h.call w p hgoing.1) hgoing.2

theorem unfinished_of_make {ρ : Type} {plan : Plan ρ} {known : Bool} {size : JsonValue} {c : Cursor}
    (hc : Cursor.make plan known size owns = .ok c) (hplan : plan.isEmpty = false) (s : Surroundings) :
    Unfinished s.reader owns ⟨c, s, 0⟩ := by
  obtain ⟨rows, rfl⟩ := Cursor.eq_of_make hc
  refine ⟨⟨rfl, hplan, rfl, rfl⟩, ?_⟩
  rw [Cursor.begin_eq]
  show Cursor.initialStack plan.steps ≠ []
  cases hsteps : plan.steps with
  | nil =>
    rw [Plan.isEmpty, hsteps] at hplan
    cases hplan
  | cons driver below => exact List.cons_ne_nil _ _

/-! ## After a request to stop -/

/-- The first look finds that the query has been asked to stop, before anything else is done. -/
theorem Unfinished.outcome_of_cancelled (h : x.Unfinished kept owns) (hcancelled : x.surroundings.cancelled = true)
    (w : Circumstances) :
    w.outcome x = (.failed .cancelled
      { (x.cursor.begin x.surroundings.context).2 with state := .cancelled }, x.moment + 1) := by
  obtain ⟨top, outer, hstack⟩ := List.exists_cons_of_ne_nil h.stack
  have hinterruption (c : Context) : w.interruption? x.moment c true = some .cancelled := rfl
  have hlook (c : Context) :
      w.look x.moment c true = (({ c with state := .cancelled }, some .cancelled), x.moment + 1) := by
    rw [Circumstances.look, hinterruption]
    rfl
  rw [Circumstances.outcome]
  dsimp only
  rw [hstack, Circumstances.walk, Circumstances.walkStep, hcancelled, hlook]

/-- What comes of the pulls after a request to stop, which give the replies `given` and lead from `x`
to `y`. -/
structure HeedsCancellation (kept : Reader) (owns : Bool) (x : Scene) (pulls : List Pull) (given : List Reply)
    (y : Scene) : Prop where
  -- what has been looked ahead at is still delivered, and every pull after it fails
  replies : given = TripleIndex.replies (some .cancelled) x.cursor.lookahead.toList pulls
  scanned : y.surroundings.context.scanned = x.surroundings.context.scanned
  joins : y.surroundings.context.joins = x.surroundings.context.joins
  -- the one moment that may pass is that of the look which ends the query, so the reader is not asked again
  moment : y.moment ≤ x.moment + 1
  state : given.any Reply.isLast = true → y.surroundings.context.state = .cancelled
  reader : given.any Reply.isLast = true → y.surroundings.reader = if owns then .closed else kept

theorem HeedsCancellation.answers {pulls : List Pull} {given : List Reply} {y : Scene}
    (h : x.HeedsCancellation kept owns pulls given y) :
    given.filterMap Reply.answer? = x.cursor.lookahead.toList.take (pulls.count .next) := by
  rw [h.replies, answers_replies]

theorem heedsCancellation_nil (x : Scene) : x.HeedsCancellation kept owns [] [] x where
  replies := by cases x.cursor.lookahead.toList <;> rfl
  scanned := rfl
  joins := rfl
  moment := Nat.le_succ _
  state hlast := by cases hlast
  reader hlast := by cases hlast

theorem Unfinished.heedsCancellation_of_empty (h : x.Unfinished kept owns)
    (hcancelled : x.surroundings.cancelled = true) (hnone : x.cursor.lookahead = none) (w : Circumstances)
    (pulls : List Pull) :
    x.HeedsCancellation kept owns pulls (w.calls x pulls).1 (w.calls x pulls).2 := by
  cases pulls with
  | nil => exact heedsCancellation_nil x
  | cons p pulls =>
    obtain ⟨y, hcall, hover, hcontext, hmoment⟩ :=
      h.underWay.call_of_failed hnone (h.outcome_of_cancelled hcancelled w) p
    have hbegin : (x.cursor.begin x.surroundings.context).2.scanned = x.surroundings.context.scanned ∧
        (x.cursor.begin x.surroundings.context).2.joins = x.surroundings.context.joins := by
      rw [Cursor.begin]
      split
      · exact ⟨rfl, rfl⟩
      dsimp only
      split
      · exact ⟨rfl, rfl⟩
      · exact ⟨rfl, rfl⟩
    rw [Circumstances.calls, hcall]
    dsimp only
    rw [hover.calls_eq]
    refine ⟨?_, ?_, ?_, Nat.le_of_eq hmoment, ?_, fun _ => hover.reader⟩
    · rw [hnone, Option.toList_none, TripleIndex.replies, replies_nil, p.atEnd_some]
      rfl
    · rw [hcontext]
      exact hbegin.1
    · rw [hcontext]
      exact hbegin.2
    · intro _
      rw [hcontext]
      rfl

/-- An answer that has been looked ahead at stays there until it is asked for. -/
theorem Unfinished.heedsCancellation (h : x.Unfinished kept owns) (hcancelled : x.surroundings.cancelled = true)
    (w : Circumstances) (pulls : List Pull) :
    x.HeedsCancellation kept owns pulls (w.calls x pulls).1 (w.calls x pulls).2 := by
  cases hlookahead : x.cursor.lookahead with
  | none => exact h.heedsCancellation_of_empty hcancelled hlookahead w pulls
  | some b =>
    -- looking again changes nothing, up to the pull that takes the answer
    induction pulls with
    | nil => exact heedsCancellation_nil x
    | cons p pulls ih =>
      rw [Circumstances.calls, h.underWay.call_of_lookahead hlookahead]
      cases p with
      | hasNext =>
        refine ⟨?_, ih.scanned, ih.joins, ih.moment, ih.state, ih.reader⟩
        have hreplies := ih.replies
        rw [hlookahead] at hreplies ⊢
        exact congrArg (Reply.available true :: ·) hreplies
      | next =>
        have hlater := (h.take .next).heedsCancellation_of_empty hcancelled rfl w pulls
        refine ⟨?_, hlater.scanned, hlater.joins, hlater.moment, hlater.state, hlater.reader⟩
        rw [hlookahead]
        exact congrArg (Reply.answer b :: ·) hlater.replies

/-- Cancellation takes effect at the next pull, whatever has happened before and whatever happens then. -/
theorem heedsCancellation_of_make {ρ : Type} {plan : Plan ρ} {known : Bool} {size : JsonValue} {c : Cursor}
    (hc : Cursor.make plan known size owns = .ok c) (hplan : plan.isEmpty = false) (s : Surroundings)
    (before after : Circumstances) (past pulls : List Pull)
    (hgoing : (before.calls ⟨c, s, 0⟩ past).1.any Reply.isLast = false) :
    let x := (before.calls ⟨c, s, 0⟩ past).2.cancel
    x.HeedsCancellation s.reader owns pulls (after.calls x pulls).1 (after.calls x pulls).2 := by
  intro x
  have hunfinished := (unfinished_of_make hc hplan s).calls before past hgoing
  have hcancelled : x.Unfinished s.reader owns := ⟨⟨hunfinished.underWay.fault, hunfinished.underWay.done,
    hunfinished.underWay.owner, hunfinished.underWay.reader⟩, hunfinished.stack⟩
  exact hcancelled.heedsCancellation rfl after pulls

theorem heedsCancellation_knows : ∃ ix c, Cursor.acquaintances = .ok ix ∧
    Cursor.make (Cursor.orderedPlanOfKnows ix) true (.ofInt 1) true = .ok c ∧
    (Cursor.orderedPlanOfKnows ix).isEmpty = false ∧
    let past := Circumstances.undisturbed.calls ⟨c, ⟨.opened ix, .fresh none, false⟩, 0⟩ [.hasNext]
    past.1.any Reply.isLast = false ∧
      let x := past.2.cancel
      let given := (Circumstances.undisturbed.calls x [.next, .hasNext, .next]).1
      given.map Reply.isLast = [false, true, true] ∧
        x.HeedsCancellation (.opened ix) true [.next, .hasNext, .next] given
          (Circumstances.undisturbed.calls x [.next, .hasNext, .next]).2 := by
  have hrun : (Cursor.acquaintances.toOption.any fun ix =>
      (Cursor.make (Cursor.orderedPlanOfKnows ix) true (.ofInt 1) true).toOption.any fun c =>
        let past := Circumstances.undisturbed.calls ⟨c, ⟨.opened ix, .fresh none, false⟩, 0⟩ [.hasNext]
        (Cursor.orderedPlanOfKnows ix).isEmpty = false ∧ past.1.any Reply.isLast = false ∧
          (Circumstances.undisturbed.calls past.2.cancel [.next, .hasNext, .next]).1.map Reply.isLast
            = [false, true, true]) = true := by
    decide +kernel
  simp only [Option.any_eq_true, toOption_eq_some, decide_eq_true_eq] at hrun
  obtain ⟨ix, hix, c, hc, hplan, hgoing, hreplies⟩ := hrun
  exact ⟨ix, c, hix, hc, hplan, hgoing, hreplies,
    heedsCancellation_of_make hc hplan ⟨.opened ix, .fresh none, false⟩ .undisturbed .undisturbed [.hasNext]
      [.next, .hasNext, .next] hgoing⟩

end Scene

end TripleIndex
