import TripleIndex.Proofs.Cursors.Circumstances
import TripleIndex.Proofs.Cursors.Faults

/-!
Outcomes. A cursor notes in the context of its query how the query has ended. What stops a query and the end
of its answers are noted in any context. A failure is noted only in a context that is not over yet, so that a
context which has been used before keeps what it says then; and nothing takes back the text of an earlier
failure.
-/

namespace TripleIndex

namespace Context

/-- The state in which a fault of the walk leaves a query. -/
def stateBy (c : Context) (f : Fault) : QueryState :=
  match f.kind with
  | .cancelled => .cancelled
  | .timedOut => .timedOut
  | _ => c.state

/-- The context with which a walk begins: one that waits is started. -/
def entered (c : Context) : Context := if c.state = .pending then c.start else c

/-- Nothing has been noted between two contexts. -/
structure Continues (c d : Context) : Prop where
  state : d.state = c.state
  error : d.error = c.error
  timeout : d.timeout = c.timeout

theorem stateBy_of_not_isStop {f : Fault} (c : Context) (h : f.isStop = false) : c.stateBy f = c.state := by
  unfold Fault.isStop at h
  unfold stateBy
  cases hkind : f.kind <;> simp_all

theorem error_interrupted (c : Context) (f : Fault) : (c.interrupted f).error = c.error := by
  unfold interrupted
  split <;> rfl

theorem Continues.refl (c : Context) : c.Continues c := ⟨rfl, rfl, rfl⟩

theorem Continues.trans {c d e : Context} (h : c.Continues d) (h' : d.Continues e) : c.Continues e :=
  ⟨h'.state.trans h.state, h'.error.trans h.error, h'.timeout.trans h.timeout⟩

theorem expiry?_cases {c : Context} {f : Fault} (h : c.expiry? = some f) :
    (∃ limit, c.timeout = some limit ∧ f = .timedOut limit) ∨
      ∃ relation left right, f = .unordered relation left right := by
  unfold expiry? at h
  split at h
  · cases h
  · next limit hlimit =>
    split at h
    · cases h
    split at h
    · cases h
      exact .inr ⟨_, _, _, rfl⟩
    split at h
    · cases h
      exact .inl ⟨limit, hlimit, rfl⟩
    · cases h

theorem lateness?_cases {c : Context} {f : Fault} (h : c.lateness? = some f) :
    ∃ limit, c.timeout = some limit ∧ f = .timedOut limit := by
  unfold lateness? at h
  split at h
  · obtain ⟨limit, hlimit, rfl⟩ := Option.map_eq_some_iff.1 h
    exact ⟨limit, hlimit, rfl⟩
  · cases h

end Context

/-- What the outcome of a walk that began with a context has noted in it. -/
def Progress.Notes (c : Context) : Progress → Prop
  | .failed f d => d.error = c.error ∧ d.state = c.stateBy f
  | .ended d | .onward _ d | .found _ _ d => c.Continues d

theorem Progress.Notes.of_continues {c d : Context} {p : Progress} (h : p.Notes d) (hd : c.Continues d) :
    p.Notes c := by
  cases p with
  | failed f e =>
    refine ⟨h.1.trans hd.error, h.2.trans ?_⟩
    unfold Context.stateBy
    rw [hd.state]
  | ended e => exact hd.trans h
  | onward stack e => exact hd.trans h
  | found b stack e => exact hd.trans h

theorem Progress.Notes.of_not_isStop {c d : Context} {f : Fault} (hf : f.isStop = false) (hd : c.Continues d) :
    (Progress.failed f d).Notes c :=
  ⟨hd.error, hd.state.trans (c.stateBy_of_not_isStop hf).symm⟩

namespace Circumstances

variable (w : Circumstances) (moment : Nat) {c : Context}

/-! ## The looks -/

theorem interruption?_cases {requested : Bool} {f : Fault} (h : w.interruption? moment c requested = some f) :
    f = .cancelled ∨ (∃ limit, c.timeout = some limit ∧ f = .timedOut limit) ∨
      ∃ relation left right, f = .unordered relation left right := by
  unfold interruption? at h
  split at h
  · next g hg =>
    cases h
    unfold Context.interruption? at hg
    split at hg
    · next e he =>
      cases hg
      obtain ⟨-, heq⟩ := Option.ite_none_right_eq_some.1 he
      exact .inl (Option.some.inj heq).symm
    · exact .inr (Context.expiry?_cases hg)
  · split at h
    · exact .inr (.inl (Context.lateness?_cases h))
    · cases h

/-- A look lets the query go on, or notes why it does not. The limit has to be one that can be written,
since the text that tells of it is made before the query is stopped by it. -/
theorem look_cases (hlimit : c.timeout.all Scalar.isWritable = true) (requested : Bool) :
    w.look moment c requested = ((c, none), moment + 1) ∨
      ∃ f d, w.look moment c requested = ((d, some f), moment + 1) ∧ (Progress.failed f d).Notes c := by
  rw [look]
  cases hinterruption : w.interruption? moment c requested with
  | none => exact .inl rfl
  | some f =>
    refine .inr ⟨f.reported, c.interrupted f, rfl, c.error_interrupted f, ?_⟩
    rcases w.interruption?_cases moment hinterruption with rfl | ⟨limit, hc, rfl⟩ | ⟨relation, left, right, rfl⟩
    · rfl
    · have hwritable : (Fault.timedOut limit).isWritable = true := by
        rw [hc] at hlimit
        exact hlimit
      rw [Fault.reported_of_isWritable hwritable]
      rfl
    · rfl

theorem countRow_cases (hlimit : c.timeout.all Scalar.isWritable = true) (requested : Bool) :
    (∃ d later, w.countRow moment c requested = ((d, none), later) ∧ c.Continues d) ∨
      ∃ f d later, w.countRow moment c requested = ((d, some f), later) ∧ (Progress.failed f d).Notes c := by
  have hcounted : c.Continues { c with scanned := c.scanned + 1 } := ⟨rfl, rfl, rfl⟩
  rw [countRow]
  dsimp only
  split
  · rcases w.look_cases moment (c := { c with scanned := c.scanned + 1 }) hlimit requested with
      hlook | ⟨f, d, hlook, hnotes⟩
    · exact .inl ⟨_, _, hlook, hcounted⟩
    · exact .inr ⟨f, d, _, hlook, hnotes.of_continues hcounted⟩
  · exact .inl ⟨_, _, rfl, hcounted⟩

/-! ## The walk -/

theorem notes_descend (r : Reader) (next : Candidates) (below : List Candidates) (b : Binding)
    (stack : List Level) : (w.lost.descend moment r next below b stack c).1.Notes c := by
  have hquery := next.neverStops_requirePattern.bind fun p => neverStops_joinClauses b p.slots
  unfold Trouble.descend
  split
  · next f hf => exact .of_not_isStop (hquery f hf) (.refl c)
  · next query _ =>
    have hcounted : c.Continues (if query.isEmpty then c else c.recordJoin) := by
      split <;> exact ⟨rfl, rfl, rfl⟩
    have hnarrow := w.neverStops_narrow moment next r query
    dsimp only
    split
    · next f later hf =>
      rw [hf] at hnarrow
      exact .of_not_isStop (hnarrow f rfl) hcounted
    · split
      · exact hcounted
      · exact hcounted

theorem notes_visit (hlimit : c.timeout.all Scalar.isWritable = true) (r : Reader) (requested : Bool) (l : Level)
    (id : DocId) (stack : List Level) : (w.visit moment r requested l id stack c).1.Notes c := by
  rcases w.countRow_cases moment hlimit requested with
    ⟨d, later, hcount, hd⟩ | ⟨f, d, later, hcount, hnotes⟩
  · have hextend := w.neverStops_extend later l.step r id l.parent
    unfold visit
    rw [hcount]
    dsimp only
    split
    · next f _ hf =>
      rw [hf] at hextend
      exact .of_not_isStop (hextend f rfl) hd
    · exact hd
    · split
      · exact hd
      · exact (w.notes_descend _ r _ _ _ stack).of_continues hd
  · unfold visit
    rw [hcount]
    exact hnotes

theorem notes_walkStep (hlimit : c.timeout.all Scalar.isWritable = true) (r : Reader) (size : PageSize)
    (requested : Bool) (stack : List Level) : (w.walkStep moment r size requested stack c).1.Notes c := by
  cases stack with
  | nil => exact .refl c
  | cons top outer =>
    rcases w.look_cases moment hlimit requested with hlook | ⟨f, d, hlook, hnotes⟩
    · have hfetch := w.neverStops_fetch (moment + 1) top r size
      unfold walkStep
      rw [hlook]
      dsimp only
      split
      · next f _ hf =>
        rw [hf] at hfetch
        exact .of_not_isStop (hfetch f rfl) (.refl c)
      · split
        · exact .refl c
        · exact w.notes_visit _ hlimit r requested _ _ _
    · unfold walkStep
      rw [hlook]
      exact hnotes

/-- A walk notes nothing on its way, and at its end why it has been stopped. -/
theorem notes_walk (hlimit : c.timeout.all Scalar.isWritable = true) (r : Reader) (size : PageSize)
    (requested : Bool) (fuel : Nat) (stack : List Level) :
    (w.walk moment r size requested fuel stack c).1.Notes c := by
  -- a context that goes on keeps its state, error and limit, so the last note is one about the first context
  induction fuel generalizing moment stack c with
  | zero => exact .refl c
  | succ fuel ih =>
    have hstep := w.notes_walkStep moment hlimit r size requested stack
    unfold walk
    split
    · next later d moment' heq =>
      rw [heq] at hstep
      have hd : c.Continues d := hstep
      have hlater : d.timeout.all Scalar.isWritable = true := by rw [hd.timeout, hlimit]
      exact (ih _ hlater later).of_continues hd
    · exact hstep

theorem notes_outcome (x : Scene)
    (hlimit : (x.cursor.begin x.surroundings.context).2.timeout.all Scalar.isWritable = true) :
    (w.outcome x).1.Notes (x.cursor.begin x.surroundings.context).2 :=
  w.notes_walk x.moment hlimit ..

end Circumstances

/-! ## The end of a query -/

/-- What a context tells of a query that has ended, by a fault or without one. `origin` is the context that
the cursor was given. -/
structure Context.Tells (origin after : Context) (fault : Option Fault) : Prop where
  completed : fault = none → after.state = .completed ∧ after.error = origin.error
  cancelled : ∀ f, fault = some f → f.kind = .cancelled → after.state = .cancelled
  timedOut : ∀ f, fault = some f → f.kind = .timedOut → after.state = .timedOut
  failed : ∀ f, fault = some f → f.kind = .joinFailed → origin.state = .pending ∨ origin.state = .running →
    after.state = .failed ∧ after.error = some f.message
  -- a context that is over already is left as it is
  kept : ∀ f, fault = some f → f.kind = .joinFailed → ¬ (origin.state = .pending ∨ origin.state = .running) →
    after.state = origin.state ∧ after.error = origin.error

namespace Context

variable {origin d : Context}

theorem tells_complete (h : origin.entered.Continues d) : origin.Tells d.complete none where
  completed _ := by
    refine ⟨rfl, h.error.trans ?_⟩
    unfold entered
    split <;> rfl
  cancelled f hf := by cases hf
  timedOut f hf := by cases hf
  failed f hf := by cases hf
  kept f hf := by cases hf

theorem tells_of_stopped {after : Context} {f : Fault}
    (h : (f.kind = .cancelled ∧ after.state = .cancelled) ∨ (f.kind = .timedOut ∧ after.state = .timedOut)) :
    origin.Tells after (some f) := by
  have hnot : f.kind ≠ .joinFailed := by
    rcases h with ⟨hkind, -⟩ | ⟨hkind, -⟩
    · rw [hkind]
      decide
    · rw [hkind]
      decide
  constructor
  · intro hfault
    cases hfault
  · rintro _ ⟨⟩ hcancelled
    rcases h with ⟨-, hstate⟩ | ⟨hkind, -⟩
    · exact hstate
    · rw [hkind] at hcancelled
      cases hcancelled
  · rintro _ ⟨⟩ htimedOut
    rcases h with ⟨hkind, -⟩ | ⟨-, hstate⟩
    · rw [hkind] at htimedOut
      cases htimedOut
    · exact hstate
  · rintro _ ⟨⟩ hfailed
    exact absurd hfailed hnot
  · rintro _ ⟨⟩ hfailed
    exact absurd hfailed hnot

theorem tells_of_isStop {f : Fault} (hf : f.isStop = true) (h : (Progress.failed f d).Notes origin.entered) :
    origin.Tells (Cursor.failContext d (Cursor.reported f)) (some (Cursor.reported f)) := by
  rw [Fault.isStop, Bool.or_eq_true, decide_eq_true_eq, decide_eq_true_eq] at hf
  have hstopped : (f.kind = .cancelled ∧ d.state = .cancelled) ∨ (f.kind = .timedOut ∧ d.state = .timedOut) := by
    rw [h.2, stateBy]
    rcases hf with hkind | hkind
    · exact .inl ⟨hkind, by rw [hkind]⟩
    · exact .inr ⟨hkind, by rw [hkind]⟩
  have hreported : Cursor.reported f = f := by
    rcases hf with hkind | hkind
    · rw [Cursor.reported, hkind]
    · rw [Cursor.reported, hkind]
  have hkept : Cursor.failContext d f = d := by
    refine if_neg ?_
    rcases hstopped with ⟨-, hstate⟩ | ⟨-, hstate⟩
    · rw [hstate]
      decide
    · rw [hstate]
      decide
  rw [hreported, hkept]
  exact tells_of_stopped hstopped

theorem tells_of_not_isStop {f : Fault} (hf : f.isStop = false)
    (h : (Progress.failed f d).Notes origin.entered) :
    origin.Tells (Cursor.failContext d (Cursor.reported f)) (some (Cursor.reported f)) := by
  obtain ⟨herror, hstate⟩ := h
  rw [stateBy_of_not_isStop _ hf] at hstate
  have hreported : Cursor.reported f = .joinFailed f := by
    unfold Fault.isStop at hf
    unfold Cursor.reported
    cases hkind : f.kind <;> simp_all
  rw [hreported]
  have hfresh (hopen : origin.state = .pending ∨ origin.state = .running) : origin.entered.state = .running := by
    unfold entered
    rcases hopen with hpending | hrunning
    · rw [if_pos hpending]
      rfl
    · rw [if_neg (by rw [hrunning]; decide), hrunning]
  have hused (hover : ¬ (origin.state = .pending ∨ origin.state = .running)) : origin.entered = origin :=
    if_neg fun hpending => hover (.inl hpending)
  constructor
  · intro hfault
    cases hfault
  · rintro _ ⟨⟩ ⟨⟩
  · rintro _ ⟨⟩ ⟨⟩
  · rintro _ ⟨⟩ - hopen
    rw [Cursor.failContext, if_pos (hstate.trans (hfresh hopen))]
    exact ⟨rfl, rfl⟩
  · rintro _ ⟨⟩ - hover
    have hnot : d.state ≠ .running := by
      rw [hstate, hused hover]
      exact fun hrunning => hover (.inr hrunning)
    rw [Cursor.failContext, if_neg hnot, hstate, herror, hused hover]
    exact ⟨rfl, rfl⟩

end Context

namespace Scene

variable {kept : Reader} {owns : Bool} {origin : Context} {x : Scene}

/-- A cursor under way in whose context nothing has been noted since the walk has begun. -/
structure Unnoted (kept : Reader) (owns : Bool) (origin : Context) (x : Scene) : Prop where
  underWay : x.UnderWay kept owns
  context : origin.entered.Continues (x.cursor.begin x.surroundings.context).2

theorem continues_deliver (x : Scene) :
    (x.cursor.begin x.surroundings.context).2.Continues
      (x.deliver.cursor.begin x.deliver.surroundings.context).2 := by
  have hstate : x.deliver.surroundings.context.state = x.surroundings.context.state := rfl
  have hstarted : x.deliver.cursor.started = x.cursor.started := rfl
  rw [Cursor.begin, Cursor.begin, hstarted, hstate]
  by_cases hbegun : x.cursor.started = true
  · rw [if_pos hbegun, if_pos hbegun]
    exact ⟨rfl, rfl, rfl⟩
  · rw [if_neg hbegun, if_neg hbegun]
    dsimp only
    split
    · exact ⟨rfl, rfl, rfl⟩
    · exact ⟨rfl, rfl, rfl⟩

theorem Unnoted.take (h : x.Unnoted kept owns origin) (p : Pull) : (p.take x).Unnoted kept owns origin := by
  refine ⟨h.underWay.take p, ?_⟩
  cases p with
  | hasNext => exact h.context
  | next => exact h.context.trans (continues_deliver x)

/-- A pull leaves the context without a note, or it ends the query and the context tells how. -/
theorem Unnoted.call_cases (h : x.Unnoted kept owns origin) (hlimit : origin.timeout.all Scalar.isWritable = true)
    (w : Circumstances) (p : Pull) :
    (∃ reply y, w.call x p = (reply, y) ∧ reply.isLast = false ∧ y.Unnoted kept owns origin) ∨
      ∃ fault y, w.call x p = (p.atEnd fault, y) ∧ fault.all isFinal = true ∧
        origin.Tells y.surroundings.context fault := by
  have hfound (b : Binding) : (p.found b).isLast = false := by cases p <;> rfl
  -- With an answer at hand the walk does not move. Without one the pull ends as its walk does.
  cases hlookahead : x.cursor.lookahead with
  | some b =>
    exact .inl ⟨_, _, h.underWay.call_of_lookahead hlookahead w p, hfound b, h.take p⟩
  | none =>
    have hentered : origin.entered.timeout = origin.timeout := by
      unfold Context.entered
      split <;> rfl
    have hnotes : (w.outcome x).1.Notes origin.entered := by
      refine (w.notes_outcome x ?_).of_continues h.context
      rw [h.context.timeout, hentered, hlimit]
    have hcall := h.underWay.call_of_outcome hlookahead w p
    cases houtcome : w.outcome x with
    | mk progress moment =>
      rw [houtcome] at hnotes hcall
      cases progress with
      | found b stack d =>
        have hunnoted : Unnoted kept owns origin ⟨{ (x.cursor.begin x.surroundings.context).1 with
            lookahead := some b, stack := stack }, { x.surroundings with context := d }, moment⟩ := by
          refine ⟨h.underWay.found b stack d moment, ?_⟩
          rw [Cursor.begin_eq]
          exact hnotes
        exact .inl ⟨_, _, hcall, hfound b, hunnoted.take p⟩
      | failed f d =>
        obtain ⟨y, hcall, hover, hcontext, -⟩ := h.underWay.call_of_failed hlookahead houtcome p
        refine .inr ⟨_, y, ?_, hover.final, ?_⟩
        · rw [hcall, p.atEnd_some]
        · rw [hcontext]
          cases hf : f.isStop with
          | true => exact Context.tells_of_isStop hf hnotes
          | false => exact Context.tells_of_not_isStop hf hnotes
      | ended d => exact .inr ⟨none, _, hcall, rfl, Context.tells_complete hnotes⟩
      | onward stack d => exact .inr ⟨none, _, hcall, rfl, Context.tells_complete hnotes⟩

theorem Unnoted.calls (h : x.Unnoted kept owns origin) (hlimit : origin.timeout.all Scalar.isWritable = true)
    (w : Circumstances) (pulls : List Pull) (hgoing : (w.calls x pulls).1.any Reply.isLast = false) :
    (w.calls x pulls).2.Unnoted kept owns origin := by
  -- a call that is not the last one leaves the context without a note
  induction pulls generalizing x with
  | nil => exact h
  | cons p pulls ih =>
    rw [Circumstances.calls] at hgoing ⊢
    rcases h.call_cases hlimit w p with ⟨reply, y, hcall, -, hy⟩ | ⟨fault, y, hcall, -, -⟩
    · rw [hcall] at hgoing ⊢
      dsimp only at hgoing ⊢
      rw [List.any_cons, Bool.or_eq_false_iff] at hgoing
      exact ih hy hgoing.2
    · rw [hcall] at hgoing
      dsimp only at hgoing
      rw [List.any_cons, p.isLast_atEnd] at hgoing
      cases hgoing

/-- The pull that ends a query leaves a context that tells how, whatever the context has told before. -/
theorem tells_of_make {ρ : Type} {plan : Plan ρ} {known : Bool} {size : JsonValue} {c : Cursor}
    (hc : Cursor.make plan known size owns = .ok c) (hplan : plan.isEmpty = false) (s : Surroundings)
    (hlimit : s.context.timeout.all Scalar.isWritable = true) (w : Circumstances) (pulls : List Pull) (p : Pull)
    (hgoing : (w.calls ⟨c, s, 0⟩ pulls).1.any Reply.isLast = false)
    (hlast : (w.call (w.calls ⟨c, s, 0⟩ pulls).2 p).1.isLast = true) :
    ∃ fault y, w.call (w.calls ⟨c, s, 0⟩ pulls).2 p = (p.atEnd fault, y) ∧ fault.all isFinal = true ∧
      s.context.Tells y.surroundings.context fault := by
  have hstart : Unnoted s.reader owns s.context ⟨c, s, 0⟩ := by
    obtain ⟨rows, rfl⟩ := Cursor.eq_of_make hc
    refine ⟨⟨rfl, hplan, rfl, rfl⟩, ?_⟩
    rw [Cursor.begin, if_neg Bool.false_ne_true]
    exact ⟨rfl, rfl, rfl⟩
  rcases (hstart.calls hlimit w pulls hgoing).call_cases hlimit w p with
    ⟨reply, y, hcall, hreply, -⟩ | hended
  · rw [hcall, hreply] at hlast
    cases hlast
  · exact hended

def losingOnce : Circumstances where
  asked _ := false
  late _ := false
  lost := lostOnce
  lost_isStop moment f h := by
    unfold lostOnce at h
    split at h
    · cases h
      rfl
    · cases h

theorem tells_knows : ∃ ix c, Cursor.acquaintances = .ok ix ∧
    Cursor.make (Cursor.orderedPlanOfKnows ix) true (.ofInt 1) true = .ok c ∧
    (Cursor.orderedPlanOfKnows ix).isEmpty = false ∧
    let x := losingOnce.calls ⟨c, ⟨.opened ix, .fresh none, false⟩, 0⟩ [.next]
    x.1.any Reply.isLast = false ∧ (losingOnce.call x.2 .hasNext).1.isLast = true ∧
      ∃ fault y, losingOnce.call x.2 .hasNext = (Pull.hasNext.atEnd fault, y) ∧ fault.all isFinal = true ∧
        (Context.fresh none).Tells y.surroundings.context fault := by
  have hrun : (Cursor.acquaintances.toOption.any fun ix =>
      (Cursor.make (Cursor.orderedPlanOfKnows ix) true (.ofInt 1) true).toOption.any fun c =>
        let x := losingOnce.calls ⟨c, ⟨.opened ix, .fresh none, false⟩, 0⟩ [.next]
        (Cursor.orderedPlanOfKnows ix).isEmpty = false ∧ x.1.any Reply.isLast = false ∧
          (losingOnce.call x.2 .hasNext).1.isLast = true) = true := by
    decide +kernel
  simp only [Option.any_eq_true, toOption_eq_some, decide_eq_true_eq] at hrun
  obtain ⟨ix, hix, c, hc, hplan, hgoing, hlast⟩ := hrun
  exact ⟨ix, c, hix, hc, hplan, hgoing, hlast,
    tells_of_make hc hplan ⟨.opened ix, .fresh none, false⟩ rfl losingOnce [.next] .hasNext hgoing hlast⟩

def isJoinFailure : Reply → Bool
  | .failed f => f.kind = .joinFailed
  | _ => false

/-- A context that has told of the end of one query says nothing of the failure of the next one, and one that
has told of a failure keeps the text of it when the next query comes to its end. -/
theorem tells_reused : ∃ ix c, Cursor.acquaintances = .ok ix ∧
    Cursor.make (Cursor.orderedPlanOfKnows ix) true (.ofInt 1) true = .ok c ∧
    let query r context := Circumstances.undisturbed.calls ⟨c, ⟨r, context, false⟩, 0⟩ [.next, .next, .hasNext]
    let ended := (query (.opened ix) (.fresh none)).2.surroundings.context
    let lost := query .closed ended
    let failed := (query .closed (.fresh none)).2.surroundings.context
    let completed := query (.opened ix) failed
    ended.state = .completed ∧ lost.1.all isJoinFailure = true ∧
      lost.2.surroundings.context.state = .completed ∧ lost.2.surroundings.context.error = none ∧
    failed.state = .failed ∧ completed.1.map Reply.isLast = [false, false, true] ∧
      completed.2.surroundings.context.state = .completed ∧
      completed.2.surroundings.context.error.isSome = true := by
  have hrun : (Cursor.acquaintances.toOption.any fun ix =>
      (Cursor.make (Cursor.orderedPlanOfKnows ix) true (.ofInt 1) true).toOption.any fun c =>
        let query r context := Circumstances.undisturbed.calls ⟨c, ⟨r, context, false⟩, 0⟩ [.next, .next, .hasNext]
        let ended := (query (.opened ix) (.fresh none)).2.surroundings.context
        let lost := query .closed ended
        let failed := (query .closed (.fresh none)).2.surroundings.context
        let completed := query (.opened ix) failed
        ended.state = .completed ∧ lost.1.all isJoinFailure = true ∧
          lost.2.surroundings.context.state = .completed ∧ lost.2.surroundings.context.error = none ∧
        failed.state = .failed ∧ completed.1.map Reply.isLast = [false, false, true] ∧
          completed.2.surroundings.context.state = .completed ∧
          completed.2.surroundings.context.error.isSome = true) = true := by
    decide +kernel
  simp only [Option.any_eq_true, toOption_eq_some, decide_eq_true_eq] at hrun
  obtain ⟨ix, hix, c, hc, hquery⟩ := hrun
  exact ⟨ix, c, hix, hc, hquery⟩

end Scene

end TripleIndex
