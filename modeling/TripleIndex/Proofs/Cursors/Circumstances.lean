import TripleIndex.Proofs.Cursors.Protocol
import TripleIndex.Query.Circumstances

/-!
Calls of a cursor whose walk meets circumstances. Where nobody interferes they are the calls of the library.
A call of a cursor that is under way hands out what has been looked ahead at, and else it is settled by the
outcome of the walk.
-/

namespace TripleIndex

namespace Pull

/-- The reply of a cursor that has an answer to deliver. -/
def found (b : Binding) : Pull → Reply
  | hasNext => .available true
  | next => .answer b

/-- What a pull does with the answer that has been looked ahead at. -/
def take (x : Scene) : Pull → Scene
  | hasNext => x
  | next => x.deliver

/-- What the outcome of a walk makes of a pull. -/
def settle (c : Cursor) (s : Surroundings) (p : Pull) : Progress × Nat → Reply × Scene
  | (.found b stack d, moment) =>
    (p.found b, p.take ⟨{ c with lookahead := some b, stack := stack }, { s with context := d }, moment⟩)
  | (.failed f d, moment) =>
    let (c, s) := c.abort (Cursor.reported f) s d
    (.failed (Cursor.reported f), ⟨c, s, moment⟩)
  | (.ended d, moment) | (.onward _ d, moment) =>
    let (c, s) := c.finish s d
    (p.atEnd none, ⟨c, s, moment⟩)

end Pull

namespace Circumstances

def call (w : Circumstances) (x : Scene) : Pull → Reply × Scene
  | .hasNext =>
    match w.hasNext x with
    | (.ok more, x) => (.available more, x)
    | (.error f, x) => (.failed f, x)
  | .next =>
    match w.next x with
    | (.ok b, x) => (.answer b, x)
    | (.error f, x) => (.failed f, x)

def calls (w : Circumstances) (x : Scene) : List Pull → List Reply × Scene
  | [] => ([], x)
  | p :: pulls =>
    let (reply, x) := w.call x p
    let (replies, x) := w.calls x pulls
    (reply :: replies, x)

/-! ## When nobody interferes -/

/-- No moment finds anything. -/
structure Calm (w : Circumstances) : Prop where
  asked : ∀ moment, w.asked moment = false
  late : ∀ moment, w.late moment = false
  lost : ∀ moment, w.lost moment = none

def undisturbed : Circumstances := ⟨fun _ => false, fun _ => false, fun _ => none, fun _ _ h => by cases h⟩

theorem calm_undisturbed : undisturbed.Calm := ⟨fun _ => rfl, fun _ => rfl, fun _ => rfl⟩

namespace Calm

variable {w : Circumstances} (h : w.Calm)

include h

theorem look_eq (moment : Nat) (c : Context) (requested : Bool) :
    w.look moment c requested = w.lost.check moment c requested := by
  have hinterruption : w.interruption? moment c requested = c.interruption? requested := by
    rw [interruption?, h.asked, h.late, Bool.or_false]
    cases c.interruption? requested <;> rfl
  rw [look, hinterruption, Trouble.check, h.lost]
  rfl

theorem visit_eq (moment : Nat) (r : Reader) (requested : Bool) (l : Level) (id : DocId) (stack : List Level)
    (c : Context) : w.visit moment r requested l id stack c = w.lost.visit moment r requested l id stack c := by
  have hcount : w.countRow moment c requested = w.lost.countRow moment c requested := by
    rw [countRow, Trouble.countRow, h.look_eq]
  rewrite [visit, Trouble.visit, hcount]
  rfl

theorem walkStep_eq (moment : Nat) (r : Reader) (size : PageSize) (requested : Bool) (stack : List Level)
    (c : Context) :
    w.walkStep moment r size requested stack c = w.lost.walkStep moment r size requested stack c := by
  cases stack with
  | nil => rfl
  | cons top outer =>
    have hvisit : w.visit = w.lost.visit := by
      funext moment r requested l id stack c
      exact h.visit_eq ..
    rewrite [walkStep, Trouble.walkStep, h.look_eq, hvisit]
    rfl

theorem walk_eq (moment : Nat) (r : Reader) (size : PageSize) (requested : Bool) (fuel : Nat)
    (stack : List Level) (c : Context) :
    w.walk moment r size requested fuel stack c = w.lost.walk moment r size requested fuel stack c := by
  induction fuel generalizing moment stack c with
  | zero => rfl
  | succ fuel ih =>
    rw [walk, Trouble.walk, h.walkStep_eq]
    obtain ⟨progress, later⟩ := w.lost.walkStep moment r size requested stack c
    cases progress with
    | onward stack c => exact ih later stack c
    | ended c => rfl
    | failed f c => rfl
    | found b stack c => rfl

theorem hasNext_eq (x : Scene) : w.hasNext x = w.lost.hasNext x := by
  have hpull : w.pull x = w.lost.pull x := by
    rw [pull, outcome, Trouble.pull]
    dsimp only
    rw [h.walk_eq]
  rewrite [hasNext, Trouble.hasNext, hpull]
  rfl

theorem call_eq (x : Scene) (p : Pull) : w.call x p = w.lost.call x p := by
  cases p with
  | hasNext =>
    rewrite [call, Trouble.call, h.hasNext_eq]
    rfl
  | next =>
    rewrite [call, Trouble.call, next, Trouble.next, h.hasNext_eq]
    rfl

/-- Where nobody interferes, the calls are those of the library. -/
theorem calls_eq (x : Scene) (pulls : List Pull) :
    ∃ later, w.calls x pulls =
      let (replies, c, s) := x.cursor.calls x.surroundings pulls
      (replies, ⟨c, s, later⟩) := by
  have hrun : w.calls x pulls = w.lost.run x (pulls.map .pull) := by
    induction pulls generalizing x with
    | nil => rfl
    | cons p pulls ih => simp only [calls, List.map_cons, Trouble.run, h.call_eq, ih]
  rw [hrun]
  exact Trouble.run_of_calm h.lost x pulls

end Calm

/-! ## One call -/

variable {w : Circumstances} {x y : Scene}

theorem call_of_found {b : Binding} (h : w.hasNext x = (.ok true, y)) (hb : y.cursor.lookahead = some b)
    (p : Pull) : w.call x p = (p.found b, p.take y) := by
  cases p with
  | hasNext =>
    rw [call, h]
    rfl
  | next =>
    rw [call, next, h]
    simp only [hb]
    rfl

theorem call_of_ended {fault : Option Fault} (h : w.hasNext x = (fault.elim (.ok false) .error, y))
    (hy : y.cursor.Ended fault) (p : Pull) : w.call x p = (p.atEnd fault, y) := by
  cases p with
  | hasNext =>
    rw [call, h]
    cases fault <;> rfl
  | next =>
    rw [call, next, h]
    cases fault with
    | some f => rfl
    | none =>
      simp only [Option.elim_none, hy.lookahead]
      rfl

end Circumstances

theorem Cursor.begin_eq (c : Cursor) (context : Context) :
    (c.begin context).1 =
      { c with started := true, stack := if c.started then c.stack else initialStack c.steps } := by
  rw [begin]
  split
  · next hstarted =>
    obtain ⟨steps, size, owns, stack, lookahead, fault, started, done⟩ := c
    cases hstarted
    rfl
  · rfl

namespace Scene

variable {kept : Reader} {owns : Bool} {x : Scene} {fault : Option Fault}

theorem UnderWay.take (h : x.UnderWay kept owns) (p : Pull) : (p.take x).UnderWay kept owns := by
  cases p with
  | hasNext => exact h
  | next => exact ⟨h.fault, h.done, h.owner, h.reader⟩

theorem UnderWay.found (h : x.UnderWay kept owns) (b : Binding) (stack : List Level) (d : Context)
    (moment : Nat) :
    UnderWay kept owns ⟨{ (x.cursor.begin x.surroundings.context).1 with lookahead := some b, stack := stack },
      { x.surroundings with context := d }, moment⟩ := by
  rw [Cursor.begin_eq]
  exact ⟨h.fault, h.done, h.owner, h.reader⟩

theorem UnderWay.call_of_lookahead (h : x.UnderWay kept owns) {b : Binding} (hb : x.cursor.lookahead = some b)
    (w : Circumstances) (p : Pull) : w.call x p = (p.found b, p.take x) := by
  have hhasNext : w.hasNext x = (.ok true, x) := by
    rw [Circumstances.hasNext, h.fault]
    simp [hb]
  exact Circumstances.call_of_found hhasNext hb p

theorem UnderWay.call_of_outcome (h : x.UnderWay kept owns) (hnone : x.cursor.lookahead = none)
    (w : Circumstances) (p : Pull) :
    w.call x p =
      p.settle (x.cursor.begin x.surroundings.context).1 x.surroundings (w.outcome x) := by
  have hhasNext : w.hasNext x = w.pull x := by
    rw [Circumstances.hasNext, h.fault]
    simp [hnone, h.done]
  have hpull : w.pull x =
      let settled := (x.cursor.begin x.surroundings.context).1.conclude x.surroundings (w.outcome x).1
      (settled.1, ⟨settled.2.1, settled.2.2, (w.outcome x).2⟩) := rfl
  have hlookahead : (x.cursor.begin x.surroundings.context).1.lookahead = none := by
    rw [Cursor.begin_eq]
    exact hnone
  have hfault : (x.cursor.begin x.surroundings.context).1.fault = none := by
    rw [Cursor.begin_eq]
    exact h.fault
  rw [hpull] at hhasNext
  cases houtcome : w.outcome x with
  | mk progress moment =>
    rw [houtcome] at hhasNext
    cases progress with
    | found b stack d => exact Circumstances.call_of_found hhasNext rfl p
    | failed f d =>
      show w.call x p = (.failed (Cursor.reported f), _)
      rw [← p.atEnd_some]
      apply Circumstances.call_of_ended hhasNext
      exact ⟨rfl, hlookahead, rfl⟩
    | ended d => exact Circumstances.call_of_ended hhasNext ⟨rfl, hlookahead, hfault⟩ p
    | onward stack d => exact Circumstances.call_of_ended hhasNext ⟨rfl, hlookahead, hfault⟩ p

theorem UnderWay.call_of_failed (h : x.UnderWay kept owns) (hnone : x.cursor.lookahead = none)
    {w : Circumstances} {f : Fault} {d : Context} {moment : Nat}
    (houtcome : w.outcome x = (.failed f d, moment)) (p : Pull) :
    ∃ y, w.call x p = (.failed (Cursor.reported f), y) ∧ y.Over kept owns (some (Cursor.reported f)) ∧
      y.surroundings.context = Cursor.failContext d (Cursor.reported f) ∧ y.moment = moment := by
  have hcall := h.call_of_outcome hnone w p
  rw [houtcome] at hcall
  refine ⟨_, hcall, ?_, rfl, rfl⟩
  rw [Cursor.begin_eq]
  refine ⟨⟨rfl, hnone, rfl⟩, isFinal_reported f, h.owner, ?_⟩
  show Cursor.release _ x.surroundings.reader = _
  rw [Cursor.release, h.reader]
  exact congrArg (if · then Reader.closed else kept) h.owner

theorem Over.calls_eq (h : x.Over kept owns fault) (w : Circumstances) (pulls : List Pull) :
    w.calls x pulls = (pulls.map (Pull.atEnd fault), x) := by
  have hhasNext : w.hasNext x = (fault.elim (.ok false) .error, x) := by
    rw [Circumstances.hasNext, h.ended.fault]
    cases fault with
    | some f => rfl
    | none => simp [h.ended.lookahead, h.ended.done]
  induction pulls with
  | nil => rfl
  | cons p pulls ih =>
    simp only [Circumstances.calls, Circumstances.call_of_ended hhasNext h.ended, ih, List.map_cons]

end Scene

end TripleIndex
