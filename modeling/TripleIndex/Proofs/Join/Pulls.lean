import TripleIndex.Query.Cursor
import TripleIndex.Proofs.Join.Loops

/-!
Calls of a cursor. A cursor is asked whether it has another answer, or for the answer itself, in any order
and any number of times. What it has still to deliver is the answer that it has looked ahead at and what
is left of the loops under way. A call does no more than the first part of that, so the replies are those
of a queue of the answers of the loops, with their fault or nothing at its end.
-/

namespace TripleIndex

theorem PageSize.ofValue_ofInt {n : Int} (hn : 1 ≤ n) : ofValue (.ofInt n) = .ok (.rows n hn) := by
  have hnumber : number? (.ofInt n) = some (.int n) := rfl
  have hbelow : belowOne (.ofInt n) = .ok false := by
    rw [belowOne, hnumber]
    exact congrArg Except.ok (decide_eq_false (Int.not_lt.2 hn))
  rw [ofValue, hbelow, ok_bind]
  simp [JsonValue.ofInt, JsonValue.scalar?, Scalar.integer?, hn, pure, Except.pure]

inductive Pull where
  | hasNext
  | next
  deriving DecidableEq, Repr

inductive Reply where
  | available (more : Bool)
  | answer (b : Binding)
  | failed (f : Fault)

namespace Reply

def isLast : Reply → Bool
  | available more => !more
  | answer _ => false
  | failed _ => true

def answer? : Reply → Option Binding
  | answer b => some b
  | _ => none

end Reply

/-- The reply of a cursor that has ended. -/
def Pull.atEnd (fault : Option Fault) : Pull → Reply
  | hasNext => match fault with
    | some f => .failed f
    | none => .available false
  | next => .failed (fault.getD .exhausted)

/-- The replies of a queue of answers with a fault at its end, or nothing. -/
def replies (fault : Option Fault) : List Binding → List Pull → List Reply
  | _, [] => []
  | [], pull :: pulls => pull.atEnd fault :: replies fault [] pulls
  | b :: bs, .hasNext :: pulls => .available true :: replies fault (b :: bs) pulls
  | b :: bs, .next :: pulls => .answer b :: replies fault bs pulls

section Replies

variable {fault : Option Fault}

theorem replies_nil (pulls : List Pull) : replies fault [] pulls = pulls.map (Pull.atEnd fault) := by
  induction pulls with
  | nil => rfl
  | cons pull pulls ih => rw [replies, ih, List.map_cons]

theorem Pull.answer?_atEnd (pull : Pull) : (pull.atEnd fault).answer? = none := by
  cases pull with
  | hasNext => cases fault <;> rfl
  | next => rfl

theorem answers_replies (bs : List Binding) (pulls : List Pull) :
    (replies fault bs pulls).filterMap Reply.answer? = bs.take (pulls.count .next) := by
  induction pulls generalizing bs with
  | nil => cases bs <;> rfl
  | cons pull pulls ih =>
    cases bs with
    | nil =>
      rw [replies, List.filterMap_cons_none pull.answer?_atEnd, ih, List.take_nil, List.take_nil]
    | cons b bs =>
      cases pull with
      | hasNext =>
        rw [replies, List.filterMap_cons_none rfl, ih, List.count_cons_of_ne (by decide)]
      | next =>
        rw [replies, List.filterMap_cons, ih, List.count_cons_self, List.take_succ_cons]
        rfl

theorem answers_replies_of_last {bs : List Binding} {pulls : List Pull}
    (h : (replies fault bs pulls).any Reply.isLast = true) :
    (replies fault bs pulls).filterMap Reply.answer? = bs := by
  induction pulls generalizing bs with
  | nil => cases bs <;> cases h
  | cons pull pulls ih =>
    cases bs with
    | nil => rw [answers_replies, List.take_nil]
    | cons b bs =>
      cases pull with
      | hasNext =>
        rw [replies, List.filterMap_cons_none rfl]
        exact ih h
      | next =>
        rw [replies, List.filterMap_cons]
        exact congrArg (b :: ·) (ih h)

end Replies

namespace Cursor

/-! ## Calls -/

def call (c : Cursor) (s : Surroundings) : Pull → Reply × Cursor × Surroundings
  | .hasNext =>
    match c.hasNext s with
    | (.ok more, c, s) => (.available more, c, s)
    | (.error f, c, s) => (.failed f, c, s)
  | .next =>
    match c.next s with
    | (.ok b, c, s) => (.answer b, c, s)
    | (.error f, c, s) => (.failed f, c, s)

def calls (c : Cursor) (s : Surroundings) : List Pull → List Reply × Cursor × Surroundings
  | [] => ([], c, s)
  | pull :: pulls =>
    let (reply, c, s) := c.call s pull
    let (replies, c, s) := c.calls s pulls
    (reply :: replies, c, s)

variable {ix : Index} {k : Course} {c : Cursor} {s : Surroundings}

/-! ## After the end -/

/-- A cursor that has ended, with the fault that it has ended by. -/
structure Ended (fault : Option Fault) (c : Cursor) : Prop where
  done : c.done = true
  lookahead : c.lookahead = none
  fault : c.fault = fault

theorem Ended.call {fault : Option Fault} (h : c.Ended fault) (s : Surroundings) (pull : Pull) :
    c.call s pull = (pull.atEnd fault, c, s) := by
  have hhasNext : c.hasNext s = (match fault with
      | some f => .error f
      | none => .ok false, c, s) := by
    rw [hasNext, h.fault]
    cases fault with
    | some f => rfl
    | none => simp [h.lookahead, h.done]
  cases pull with
  | hasNext =>
    rw [Cursor.call, hhasNext]
    cases fault <;> rfl
  | next =>
    rw [Cursor.call, next, hhasNext]
    cases fault with
    | some f => rfl
    | none =>
      simp only [h.lookahead]
      rfl

theorem Ended.calls {fault : Option Fault} (h : c.Ended fault) (s : Surroundings) (pulls : List Pull) :
    c.calls s pulls = (pulls.map (Pull.atEnd fault), c, s) := by
  induction pulls with
  | nil => rfl
  | cons pull pulls ih => simp only [Cursor.calls, h.call, ih, List.map_cons]

/-! ## Before the end -/

/-- What the cursor has still to deliver. -/
def ahead (c : Cursor) (r : Reader) : Course :=
  match c.lookahead with
  | none => stackCourse r c.stack
  | some b => (Course.answer b).andThen (stackCourse r c.stack)

/-- A cursor that has begun and has the course `k` still before it. -/
structure Offers (ix : Index) (k : Course) (c : Cursor) (s : Surroundings) : Prop where
  reader : s.reader = .opened ix
  going : s.cancelled = false
  time : s.context.HasTime
  size : ∃ n, ∃ hn : 1 ≤ n, c.size = .rows n hn
  fault : c.fault = none
  done : c.done = false
  started : c.started = true
  course : c.ahead (.opened ix) = k

/-- The context once the cursor has come to its end. -/
def concluded (context : Context) : Option Fault → Context
  | none => context.complete
  | some f => failContext context f

/-- Steps of the walk and answers that the cursor can still come to. -/
def workLeft (c : Cursor) : Nat := stackWork c.stack + c.lookahead.toList.length

theorem begin_of_started (hstarted : c.started = true) (context : Context) :
    c.begin context = (c, context) := by
  rw [begin, hstarted, if_pos rfl]

theorem hasNext_eq_pull (hfault : c.fault = none) (hlookahead : c.lookahead = none) (hdone : c.done = false) :
    c.hasNext s = c.pull s := by
  rw [hasNext, hfault]
  simp [hlookahead, hdone]

/-- A call looks at the answer that is next, if there is one, and else comes to the end. -/
theorem Offers.hasNext_cases (h : c.Offers ix k s) :
    (∃ b visited joins later c' s', k = (Course.spent visited joins).andThen ((Course.answer b).andThen later) ∧
      c.hasNext s = (.ok true, c', s') ∧ c'.lookahead = some b ∧
      c'.Offers ix ((Course.answer b).andThen later) s' ∧
      s'.context = s.context.after (.spent visited joins) ∧ c'.workLeft ≤ c.workLeft) ∨
    (k.answers = [] ∧ ∃ c' s',
      c.hasNext s = (match k.fault.map reported with
        | some f => .error f
        | none => .ok false, c', s') ∧
      c'.Ended (k.fault.map reported) ∧
      s'.context = concluded (s.context.after k) (k.fault.map reported)) := by
  cases hlookahead : c.lookahead with
  | some b =>
    -- an answer that has been found before is told again, and no step is made
    have hcourse : (Course.answer b).andThen (stackCourse (.opened ix) c.stack) = k := by
      rw [← h.course, ahead, hlookahead]
    have hhasNext : c.hasNext s = (.ok true, c, s) := by
      rw [hasNext, h.fault]
      simp [hlookahead]
    refine .inl ⟨b, 0, 0, stackCourse (.opened ix) c.stack, c, s, ?_, hhasNext, hlookahead, ?_, rfl,
      Nat.le_refl _⟩
    · rw [hcourse]
      exact (Course.nothing_andThen k).symm
    · rw [hcourse]
      exact h
  | none =>
    obtain ⟨n, hn, hsize⟩ := h.size
    have hcourse : stackCourse (.opened ix) c.stack = k := by
      rw [← h.course, ahead, hlookahead]
    have hfollows := walk_follows ix n hn (stackWork c.stack + 1) h.time c.stack
    have hpull : c.hasNext s = c.pull s := hasNext_eq_pull h.fault hlookahead h.done
    rw [pull, begin_of_started h.started] at hpull
    rw [hcourse] at hfollows
    dsimp only at hpull
    rw [h.reader, hsize, h.going] at hpull
    cases hwalk : walk (.opened ix) (.rows n hn) false (stackWork c.stack + 1) c.stack s.context with
    -- the fuel is more than the work on the stack, so the walk does not stop on its way
    | onward stack d => exact absurd hwalk (walk_ne_onward (Nat.lt_succ_self _))
    | found b stack d =>
      rw [hwalk] at hfollows hpull
      obtain ⟨visited, joins, hk, hcontext⟩ := hfollows
      have hcontext : d = s.context.after (.spent visited joins) := hcontext
      have hwork : stackWork stack < stackWork c.stack := work_walk_lt hwalk
      refine .inl ⟨b, visited, joins, stackCourse (.opened ix) stack, _, _, hk, hpull, rfl, ?_, hcontext, ?_⟩
      · exact ⟨rfl, rfl, hcontext ▸ h.time.after _, ⟨n, hn, rfl⟩, h.fault, h.done, h.started, rfl⟩
      · simp only [workLeft, hlookahead, Option.toList_some, Option.toList_none, List.length_cons,
          List.length_nil]
        omega
    | ended d =>
      rw [hwalk] at hfollows hpull
      obtain ⟨visited, joins, hk, hcontext⟩ := hfollows
      have hk : k = .spent visited joins := hk.trans (Course.andThen_nothing _)
      have hcontext : d = s.context.after (.spent visited joins) := hcontext
      subst hk hcontext
      exact .inr ⟨rfl, _, _, hpull, ⟨rfl, hlookahead, h.fault⟩, rfl⟩
    | failed f d =>
      rw [hwalk] at hfollows hpull
      obtain ⟨visited, joins, hk, hcontext⟩ := hfollows
      have hcontext : d = s.context.after (.spent visited joins) := hcontext
      subst hk hcontext
      exact .inr ⟨rfl, _, _, hpull, ⟨rfl, hlookahead, rfl⟩, rfl⟩

theorem Offers.next_cases (h : c.Offers ix k s) :
    (∃ b past later c' s', k = past.andThen later ∧ past.fault = none ∧ past.answers = [b] ∧
      c.next s = (.ok b, c', s') ∧ c'.Offers ix later s' ∧ s'.context = s.context.after past ∧
      c'.workLeft < c.workLeft) ∨
    (k.answers = [] ∧ ∃ c' s',
      c.next s = (.error ((k.fault.map reported).getD .exhausted), c', s') ∧
      c'.Ended (k.fault.map reported) ∧
      s'.context = concluded (s.context.after k) (k.fault.map reported)) := by
  rcases h.hasNext_cases with ⟨b, visited, joins, later, c', s', rfl, hhasNext, hlookahead, hoffers, hcontext,
    hwork⟩ | ⟨hk, c', s', hhasNext, hended, hcontext⟩
  · have hlater : stackCourse (.opened ix) c'.stack = later := by
      have hcourse := hoffers.course
      rw [ahead, hlookahead] at hcourse
      exact Course.andThen_answer_cancel hcourse
    refine .inl ⟨b, (Course.spent visited joins).andThen (.answer b), later, { c' with lookahead := none },
      { s' with context := s'.context.recordResult }, (Course.andThen_assoc ..).symm, rfl, rfl, ?_, ?_, ?_, ?_⟩
    · rw [next, hhasNext]
      simp only [hlookahead]
    · exact ⟨hoffers.reader, hoffers.going, hoffers.time, hoffers.size, hoffers.fault, hoffers.done,
        hoffers.started, hlater⟩
    · rw [Context.after_andThen _ rfl, ← hcontext]
      rfl
    · simp only [workLeft, hlookahead, Option.toList_some, Option.toList_none, List.length_cons,
        List.length_nil] at hwork ⊢
      omega
  · refine .inr ⟨hk, c', s', ?_, hended, hcontext⟩
    rw [next, hhasNext]
    cases hfault : k.fault with
    | some f => rfl
    | none => simp only [Option.map_none, hended.lookahead, Option.getD_none]

theorem Offers.call_cases (h : c.Offers ix k s) (pull : Pull) :
    (∃ reply past later c' s', k = past.andThen later ∧ past.fault = none ∧
      c.call s pull = (reply, c', s') ∧ reply.isLast = false ∧
      (∀ fault pulls, replies fault k.answers (pull :: pulls) = reply :: replies fault later.answers pulls) ∧
      c'.Offers ix later s' ∧ s'.context = s.context.after past) ∨
    (k.answers = [] ∧ ∃ c' s', c.call s pull = (pull.atEnd (k.fault.map reported), c', s') ∧
      c'.Ended (k.fault.map reported) ∧
      s'.context = concluded (s.context.after k) (k.fault.map reported)) := by
  cases pull with
  | hasNext =>
    rcases h.hasNext_cases with ⟨b, visited, joins, later, c', s', rfl, hhasNext, -, hoffers, hcontext, -⟩ |
      ⟨hk, c', s', hhasNext, hended, hcontext⟩
    · refine .inl ⟨.available true, .spent visited joins, (Course.answer b).andThen later, c', s', rfl, rfl, ?_,
        rfl, fun _ _ => rfl, hoffers, hcontext⟩
      rw [call, hhasNext]
    · refine .inr ⟨hk, c', s', ?_, hended, hcontext⟩
      rw [call, hhasNext]
      cases k.fault <;> rfl
  | next =>
    rcases h.next_cases with ⟨b, past, later, c', s', rfl, hfault, hanswers, hnext, hoffers, hcontext, -⟩ |
      ⟨hk, c', s', hnext, hended, hcontext⟩
    · refine .inl ⟨.answer b, past, later, c', s', rfl, hfault, ?_, rfl, fun fault pulls => ?_, hoffers, hcontext⟩
      · rw [call, hnext]
      · rw [Course.andThen_eq hfault, hanswers]
        rfl
    · refine .inr ⟨hk, c', s', ?_, hended, hcontext⟩
      rw [call, hnext]
      rfl

/-- Calls reply as a queue of what is before the cursor does, and a reply that says that nothing more is
to come finds all its work done. -/
theorem Offers.calls_eq (h : c.Offers ix k s) (pulls : List Pull) :
    (c.calls s pulls).1 = replies (k.fault.map reported) k.answers pulls ∧
      ((c.calls s pulls).1.any Reply.isLast = true →
        (c.calls s pulls).2.2.context = concluded (s.context.after k) (k.fault.map reported)) := by
  -- every call takes its part off the front of the course, until one comes to its end, and from then on
  -- nothing changes
  induction pulls generalizing k c s with
  | nil =>
    refine ⟨?_, fun hlast => by cases hlast⟩
    cases k.answers <;> rfl
  | cons pull pulls ih =>
    rcases h.call_cases pull with ⟨reply, past, later, c', s', rfl, hpast, hcall, hreply, hreplies, hoffers,
      hcontext⟩ | ⟨hk, c', s', hcall, hended, hcontext⟩
    · obtain ⟨hlater, hlast⟩ := ih hoffers
      have hfault : (past.andThen later).fault = later.fault := by rw [Course.andThen_eq hpast]
      simp only [calls, hcall, hreplies, hfault, hlater, List.any_cons, hreply, Bool.false_or]
      rw [hlater] at hlast
      refine ⟨trivial, fun h => ?_⟩
      rw [hlast h, hcontext, Context.after_andThen _ hpast]
    · simp only [calls, hcall, hended.calls, hk, replies_nil]
      exact ⟨rfl, fun _ => hcontext⟩

/-! ## The first call -/

theorem make_of_size {ρ : Type} (plan : Plan ρ) {v : JsonValue} {size : PageSize}
    (hsize : PageSize.ofValue v = .ok size) (owns : Bool) :
    make plan true v owns = .ok ⟨plan.steps, size, owns, [], none, none, false, plan.isEmpty⟩ := by
  rw [make, hsize, ok_bind]
  simp
  rfl

theorem eq_of_make {ρ : Type} {plan : Plan ρ} {known owns : Bool} {v : JsonValue} {made : Cursor}
    (h : make plan known v owns = .ok made) :
    ∃ size, made = ⟨plan.steps, size, owns, [], none, none, false, plan.isEmpty⟩ := by
  rw [make] at h
  cases hsize : PageSize.ofValue v with
  | error f =>
    rw [hsize] at h
    cases h
  | ok size =>
    rw [hsize, ok_bind] at h
    split at h
    · cases h
    · cases h
      exact ⟨size, rfl⟩

theorem make_eq {ρ : Type} (plan : Plan ρ) {n : Int} (hn : 1 ≤ n) (owns : Bool) :
    make plan true (.ofInt n) owns =
      .ok ⟨plan.steps, .rows n hn, owns, [], none, none, false, plan.isEmpty⟩ :=
  make_of_size plan (PageSize.ofValue_ofInt hn) owns

/-- A cursor that no call has reached yet and that has something to do. -/
structure Waits (c : Cursor) : Prop where
  started : c.started = false
  fault : c.fault = none
  lookahead : c.lookahead = none
  done : c.done = false

/-- A cursor at the beginning of its walk. -/
def begun (c : Cursor) : Cursor := { c with started := true, stack := initialStack c.steps }

/-- The context in which the walk begins. -/
def running (c : Cursor) (context : Context) : Context :=
  (if context.state = .pending then context.start else context).recordPatterns c.steps.length

theorem Waits.hasNext_begun (h : c.Waits) (s : Surroundings) :
    c.hasNext s = c.begun.hasNext { s with context := c.running s.context } := by
  have hbegin : c.begin s.context = (c.begun, c.running s.context) := by
    rw [begin, h.started, if_neg (by simp)]
    rfl
  have hagain : c.begun.begin (c.running s.context) = (c.begun, c.running s.context) := rfl
  have hbegun : c.begun.hasNext { s with context := c.running s.context } =
      c.begun.pull { s with context := c.running s.context } := hasNext_eq_pull h.fault h.lookahead h.done
  rw [hbegun, hasNext_eq_pull h.fault h.lookahead h.done, pull, pull, hbegin, hagain]
  rfl

theorem Waits.next_begun (h : c.Waits) (s : Surroundings) :
    c.next s = c.begun.next { s with context := c.running s.context } := by
  rw [next, next, h.hasNext_begun]

theorem Waits.calls_begun (h : c.Waits) (s : Surroundings) (pull : Pull) (pulls : List Pull) :
    c.calls s (pull :: pulls) = c.begun.calls { s with context := c.running s.context } (pull :: pulls) := by
  have hcall : c.call s pull = c.begun.call { s with context := c.running s.context } pull := by
    cases pull with
    | hasNext => rw [call, call, h.hasNext_begun]
    | next => rw [call, call, h.next_begun]
  rw [calls, calls, hcall]

theorem Waits.offers_begun (h : c.Waits) {driver : Candidates} {below : List Candidates}
    (hsteps : c.steps = driver :: below) {n : Int} {hn : 1 ≤ n} (hsize : c.size = .rows n hn)
    (hreader : s.reader = .opened ix) (hgoing : s.cancelled = false) (htime : s.context.HasTime) :
    c.begun.Offers ix (planLoops (.opened ix) (driver :: below))
      { s with context := c.running s.context } := by
  refine ⟨hreader, hgoing, ?_, ⟨n, hn, hsize⟩, h.fault, h.done, rfl, ?_⟩
  · rw [running]
    split
    · exact htime
    · exact htime
  · have hstack : c.begun.stack = [.paged driver below] := by rw [begun, hsteps, initialStack]
    have hahead : c.begun.lookahead = none := h.lookahead
    rw [ahead, hahead, hstack]
    exact stackCourse_paged (.opened ix) driver below

/-- The walk of the next pull comes to an answer, a fault or its end after finitely many steps, and the pull
runs it to that point. -/
def PullSettles (c : Cursor) (s : Surroundings) : Prop :=
  let (c, context) := c.begin s.context
  Settles s.reader c.size s.cancelled c.stack context
    (walk s.reader c.size s.cancelled (stackWork c.stack + 1) c.stack context)

theorem pull_settles (c : Cursor) (s : Surroundings) : c.PullSettles s := walk_settles (Nat.lt_succ_self _)

end Cursor

end TripleIndex
