import TripleIndex.Proofs.Cursors.Trouble
import TripleIndex.Proofs.Join.Pulls
import TripleIndex.Proofs.Join.Recursion

/-!
The protocol of a cursor. A cursor is pulled and closed in any order, and its walk may meet trouble at any
moment. It is under way until a pull comes to its end or it is closed, and then it is over for good: it
keeps the fault that it has ended by, or that there was none, and every later pull says so again. Its
reader, if it owns it, is closed at that point and at no other.
-/

namespace TripleIndex

/-- What can be asked of a cursor. -/
inductive Use where
  | pull (p : Pull)
  | close
  deriving DecidableEq, Repr

theorem Pull.isLast_atEnd (fault : Option Fault) (p : Pull) : (p.atEnd fault).isLast = true := by
  cases p with
  | hasNext => cases fault <;> rfl
  | next => rfl

theorem Pull.atEnd_some (f : Fault) (p : Pull) : p.atEnd (some f) = .failed f := by
  cases p <;> rfl

namespace Trouble

def call (t : Trouble) (x : Scene) : Pull → Reply × Scene
  | .hasNext =>
    match t.hasNext x with
    | (.ok more, x) => (.available more, x)
    | (.error f, x) => (.failed f, x)
  | .next =>
    match t.next x with
    | (.ok b, x) => (.answer b, x)
    | (.error f, x) => (.failed f, x)

/-- The replies to the pulls of a run, and where it leads. -/
def run (t : Trouble) (x : Scene) : List Use → List Reply × Scene
  | [] => ([], x)
  | .pull p :: uses =>
    let (reply, x) := t.call x p
    let (replies, x) := t.run x uses
    (reply :: replies, x)
  | .close :: uses => t.run x.close uses

section Calm

variable {t : Trouble} (hcalm : ∀ moment, t moment = none)

include hcalm

theorem call_of_calm (x : Scene) (p : Pull) :
    ∃ later, t.call x p =
      let (reply, c, s) := x.cursor.call x.surroundings p
      (reply, ⟨c, s, later⟩) := by
  cases p with
  | hasNext =>
    obtain ⟨later, hhasNext⟩ := hasNext_of_calm hcalm x
    rw [call, hhasNext, Cursor.call]
    obtain ⟨result, c, s⟩ := x.cursor.hasNext x.surroundings
    cases result <;> exact ⟨later, rfl⟩
  | next =>
    obtain ⟨later, hnext⟩ := next_of_calm hcalm x
    rw [call, hnext, Cursor.call]
    obtain ⟨result, c, s⟩ := x.cursor.next x.surroundings
    cases result <;> exact ⟨later, rfl⟩

theorem run_of_calm (x : Scene) (pulls : List Pull) :
    ∃ later, t.run x (pulls.map .pull) =
      let (replies, c, s) := x.cursor.calls x.surroundings pulls
      (replies, ⟨c, s, later⟩) := by
  induction pulls generalizing x with
  | nil => exact ⟨x.moment, rfl⟩
  | cons p pulls ih =>
    obtain ⟨moment, hcall⟩ := call_of_calm hcalm x p
    rw [List.map_cons, run, hcall, Cursor.calls]
    obtain ⟨reply, c, s⟩ := x.cursor.call x.surroundings p
    obtain ⟨later, hrun⟩ := ih ⟨c, s, moment⟩
    dsimp only
    rw [hrun]
    exact ⟨later, rfl⟩

end Calm

end Trouble

/-! ## Under way and over -/

namespace Scene

/-- A cursor that has not come to its end has left its reader as it was. -/
structure UnderWay (kept : Reader) (owns : Bool) (x : Scene) : Prop where
  fault : x.cursor.fault = none
  done : x.cursor.done = false
  owner : x.cursor.owns = owns
  reader : x.surroundings.reader = kept

def isFinal (f : Fault) : Bool := f.kind = .joinFailed || f.kind = .cancelled || f.kind = .timedOut

/-- A cursor that has come to its end, by a fault or without one. -/
structure Over (kept : Reader) (owns : Bool) (fault : Option Fault) (x : Scene) : Prop where
  ended : x.cursor.Ended fault
  final : fault.all isFinal = true
  owner : x.cursor.owns = owns
  reader : x.surroundings.reader = if owns then .closed else kept

variable {kept : Reader} {owns : Bool} {x : Scene} {fault : Option Fault}

theorem isFinal_reported (f : Fault) : isFinal (Cursor.reported f) = true := by
  unfold Cursor.reported isFinal
  split
  · next h => simp [h]
  · next h => simp [h]
  · rfl

/-- How a pull ends: with an answer to deliver, or for good. -/
theorem UnderWay.conclude (h : x.UnderWay kept owns) (hlookahead : x.cursor.lookahead = none)
    {c : Cursor} {context : Context} (hbegin : x.cursor.begin x.surroundings.context = (c, context))
    (p : Progress) (moment : Nat) :
    (∃ b c' s', c.conclude x.surroundings p = (.ok true, c', s') ∧ c'.lookahead = some b ∧
      UnderWay kept owns ⟨c', s', moment⟩) ∨
    ∃ fault c' s', c.conclude x.surroundings p = (fault.elim (.ok false) .error, c', s') ∧
      Over kept owns fault ⟨c', s', moment⟩ := by
  have hflags : c.fault = none ∧ c.done = false ∧ c.owns = owns ∧ c.lookahead = none := by
    unfold Cursor.begin at hbegin
    split at hbegin
    · cases hbegin
      exact ⟨h.fault, h.done, h.owner, hlookahead⟩
    · cases hbegin
      exact ⟨h.fault, h.done, h.owner, hlookahead⟩
  obtain ⟨hfault, hdone, howner, hnothing⟩ := hflags
  have hreader : c.release x.surroundings.reader = if owns then .closed else kept := by
    rw [Cursor.release, howner, h.reader]
  cases p with
  | found b stack d => exact .inl ⟨b, _, _, rfl, rfl, hfault, hdone, howner, h.reader⟩
  | failed f d =>
    exact .inr ⟨some (Cursor.reported f), _, _, rfl, ⟨rfl, hnothing, rfl⟩, isFinal_reported f, howner, hreader⟩
  | ended d => exact .inr ⟨none, _, _, rfl, ⟨rfl, hnothing, hfault⟩, rfl, howner, hreader⟩
  | onward stack d => exact .inr ⟨none, _, _, rfl, ⟨rfl, hnothing, hfault⟩, rfl, howner, hreader⟩

theorem UnderWay.hasNext_cases (h : x.UnderWay kept owns) (t : Trouble) :
    (∃ b y, t.hasNext x = (.ok true, y) ∧ y.cursor.lookahead = some b ∧ y.UnderWay kept owns) ∨
    ∃ fault y, t.hasNext x = (fault.elim (.ok false) .error, y) ∧ y.Over kept owns fault := by
  cases hlookahead : x.cursor.lookahead with
  | some b =>
    refine .inl ⟨b, x, ?_, hlookahead, h⟩
    rw [Trouble.hasNext, h.fault]
    simp [hlookahead]
  | none =>
    have hpull : t.hasNext x = t.pull x := by
      rw [Trouble.hasNext, h.fault]
      simp [hlookahead, h.done]
    cases hbegin : x.cursor.begin x.surroundings.context with
    | mk c context =>
      rw [hpull, Trouble.pull, hbegin]
      dsimp only
      rcases h.conclude hlookahead hbegin (t.walk ..).1 (t.walk ..).2 with
        ⟨b, c', s', hconclude, hb, hunder⟩ | ⟨fault, c', s', hconclude, hover⟩
      · exact .inl ⟨b, _, by rw [hconclude], hb, hunder⟩
      · exact .inr ⟨fault, _, by rw [hconclude], hover⟩

theorem Over.call_of_hasNext {t : Trouble} {y : Scene}
    (hhasNext : t.hasNext x = (fault.elim (.ok false) .error, y)) (h : y.Over kept owns fault) (p : Pull) :
    t.call x p = (p.atEnd fault, y) := by
  cases p with
  | hasNext =>
    rw [Trouble.call, hhasNext]
    cases fault <;> rfl
  | next =>
    rw [Trouble.call, Trouble.next, hhasNext]
    cases fault with
    | some f => rfl
    | none =>
      simp only [Option.elim_none, h.ended.lookahead]
      rfl

theorem UnderWay.call_cases (h : x.UnderWay kept owns) (t : Trouble) (p : Pull) :
    (∃ reply y, t.call x p = (reply, y) ∧ reply.isLast = false ∧ y.UnderWay kept owns) ∨
    ∃ fault y, t.call x p = (p.atEnd fault, y) ∧ y.Over kept owns fault := by
  rcases h.hasNext_cases t with ⟨b, y, hhasNext, hb, hunder⟩ | ⟨fault, y, hhasNext, hover⟩
  · cases p with
    | hasNext => exact .inl ⟨.available true, y, by rw [Trouble.call, hhasNext], rfl, hunder⟩
    | next =>
      refine .inl ⟨.answer b, y.deliver, ?_, rfl, hunder.fault, hunder.done, hunder.owner, hunder.reader⟩
      rw [Trouble.call, Trouble.next, hhasNext]
      simp only [hb]
  · exact .inr ⟨fault, y, hover.call_of_hasNext hhasNext p, hover⟩

theorem UnderWay.close (h : x.UnderWay kept owns) : x.close.Over kept owns none := by
  refine ⟨⟨rfl, rfl, h.fault⟩, rfl, h.owner, ?_⟩
  show x.cursor.release x.surroundings.reader = _
  rw [Cursor.release, h.owner, h.reader]

theorem Over.call (h : x.Over kept owns fault) (t : Trouble) (p : Pull) :
    t.call x p = (p.atEnd fault, x) := by
  refine h.call_of_hasNext ?_ p
  rw [Trouble.hasNext, h.ended.fault]
  cases fault with
  | some f => rfl
  | none => simp [h.ended.lookahead, h.ended.done]

theorem Over.close (h : x.Over kept owns fault) : x.close.Over kept owns fault := by
  refine ⟨⟨rfl, rfl, h.ended.fault⟩, h.final, h.owner, ?_⟩
  show x.cursor.release x.surroundings.reader = _
  rw [Cursor.release, h.owner, h.reader]
  split <;> rfl

/-! ## Runs -/

theorem Over.run (h : x.Over kept owns fault) (t : Trouble) (uses : List Use) :
    (t.run x uses).2.Over kept owns fault := by
  induction uses generalizing x with
  | nil => exact h
  | cons use uses ih =>
    cases use with
    | close => exact ih h.close
    | pull p =>
      rw [Trouble.run, h.call]
      exact ih h

/-- A run leaves the cursor under way, or one of its replies or a close has ended it. -/
theorem UnderWay.run_cases (h : x.UnderWay kept owns) (t : Trouble) (uses : List Use) :
    ((t.run x uses).2.UnderWay kept owns ∧ (t.run x uses).1.any Reply.isLast = false ∧ .close ∉ uses) ∨
    ∃ fault, (t.run x uses).2.Over kept owns fault ∧
      ((t.run x uses).1.any Reply.isLast = true ∨ .close ∈ uses) ∧
      ∀ f, fault = some f → .failed f ∈ (t.run x uses).1 := by
  -- the cursor is under way up to the first of these, and over after it
  induction uses generalizing x with
  | nil => exact .inl ⟨h, rfl, List.not_mem_nil⟩
  | cons use uses ih =>
    cases use with
    | close =>
      refine .inr ⟨none, h.close.run t uses, .inr List.mem_cons_self, ?_⟩
      intro f hf
      cases hf
    | pull p =>
      rcases h.call_cases t p with ⟨reply, y, hcall, hreply, hunder⟩ | ⟨fault, y, hcall, hover⟩
      · rw [Trouble.run, hcall]
        simp only [List.any_cons, hreply, Bool.false_or, List.mem_cons, reduceCtorEq, false_or]
        rcases ih hunder with hlater | ⟨fault, hover, hlast, hfault⟩
        · exact .inl hlater
        · exact .inr ⟨fault, hover, hlast, fun f hf => .inr (hfault f hf)⟩
      · rw [Trouble.run, hcall]
        refine .inr ⟨fault, hover.run t uses, .inl ?_, ?_⟩
        · simp [Pull.isLast_atEnd]
        · rintro f rfl
          rw [p.atEnd_some]
          exact List.mem_cons_self

/-! ## The protocol -/

/-- What holds of a cursor after the uses `past`, which have given the replies `given` and have led to `x`.
The reader was `kept` before the cursor was made. -/
structure KeepsProtocol (t : Trouble) (kept : Reader) (owns isEmpty : Bool) (past : List Use)
    (given : List Reply) (x : Scene) : Prop where
  -- a pull that fails does so by a fault of the join or a stop of the query, and so does every later one
  failure : ∀ p f later again, (t.call x p).1 = .failed f → f ≠ .exhausted →
    isFinal f = true ∧ (t.call (t.run (t.call x p).2 later).2 again).1 = .failed f
  -- else the first end stays the end
  exhaustion : (∀ f, .failed f ∈ given → f = .exhausted) → given.any Reply.isLast = true ∨ .close ∈ past →
    ∀ later p, (t.call (t.run x later).2 p).1 = p.atEnd none
  -- to look again changes nothing, and no moment passes
  repetition : ∀ more y, t.call x .hasNext = (.available more, y) → t.call y .hasNext = (.available more, y)
  reader : x.surroundings.reader =
    if owns && (isEmpty || given.any Reply.isLast || past.contains .close) then .closed else kept

variable {t : Trouble}

theorem Over.of_call_eq_failed (h : x.Over kept owns fault) {p : Pull} {f : Fault}
    (hcall : p.atEnd fault = .failed f) (hne : f ≠ .exhausted) : x.Over kept owns (some f) := by
  cases fault with
  | some g =>
    rw [p.atEnd_some] at hcall
    cases hcall
    exact h
  | none =>
    cases p with
    | hasNext => cases hcall
    | next =>
      cases hcall
      exact absurd rfl hne

theorem Over.call_run (h : x.Over kept owns fault) (t : Trouble) (later : List Use) (p : Pull) :
    (t.call (t.run x later).2 p).1 = p.atEnd fault := by
  rw [(h.run t later).call]

theorem UnderWay.repetition (h : x.UnderWay kept owns) {more : Bool} {y : Scene}
    (hcall : t.call x .hasNext = (.available more, y)) : t.call y .hasNext = (.available more, y) := by
  rcases h.hasNext_cases t with ⟨b, z, hhasNext, hb, hunder⟩ | ⟨fault, z, hhasNext, hover⟩
  · -- the answer is looked at, and the next look finds it there
    rw [Trouble.call, hhasNext] at hcall
    cases hcall
    rw [Trouble.call, Trouble.hasNext, hunder.fault]
    simp [hb]
  · rw [hover.call_of_hasNext hhasNext] at hcall
    obtain ⟨hreply, rfl⟩ := Prod.mk.inj hcall
    rw [hover.call, hreply]

theorem UnderWay.keepsProtocol {past : List Use} {given : List Reply} (h : x.UnderWay kept owns)
    (hgiven : given.any Reply.isLast = false) (hclose : .close ∉ past) :
    x.KeepsProtocol t kept owns false past given where
  failure p f later again hfailed hne := by
    rcases h.call_cases t p with ⟨reply, y, hcall, hreply, -⟩ | ⟨fault, y, hcall, hover⟩
    · rw [hcall] at hfailed
      cases hfailed
      cases hreply
    · rw [hcall] at hfailed ⊢
      have hover := hover.of_call_eq_failed hfailed hne
      exact ⟨hover.final, by rw [hover.call_run, again.atEnd_some]⟩
  exhaustion _ hended := by
    rcases hended with hlast | hmem
    · rw [hgiven] at hlast
      cases hlast
    · exact absurd hmem hclose
  repetition _ _ hcall := h.repetition hcall
  reader := by
    have hcontains : past.contains .close = false := by simpa using hclose
    rw [h.reader, hgiven, hcontains]
    simp

theorem Over.keepsProtocol {isEmpty : Bool} {past : List Use} {given : List Reply} (h : x.Over kept owns fault)
    (hended : (isEmpty || given.any Reply.isLast || past.contains .close) = true)
    (hgiven : ∀ f, fault = some f → .failed f ∈ given) :
    x.KeepsProtocol t kept owns isEmpty past given where
  failure p f later again hfailed hne := by
    rw [h.call] at hfailed ⊢
    have hover := h.of_call_eq_failed hfailed hne
    exact ⟨hover.final, by rw [hover.call_run, again.atEnd_some]⟩
  exhaustion hexhausted _ later p := by
    cases fault with
    | none => exact h.call_run t later p
    | some f =>
      have hfinal := h.final
      rw [hexhausted f (hgiven f rfl)] at hfinal
      cases hfinal
  repetition more y hcall := by
    rw [h.call] at hcall
    obtain ⟨hreply, rfl⟩ := Prod.mk.inj hcall
    rw [h.call, hreply]
  reader := by rw [h.reader, hended, Bool.and_true]

theorem underWay_or_over_of_make {ρ : Type} {plan : Plan ρ} {known : Bool} {size : JsonValue} {c : Cursor}
    (hc : Cursor.make plan known size owns = .ok c) (s : Surroundings) :
    let start : Scene := ⟨c, { s with reader := c.readerAtStart s.reader }, 0⟩
    (plan.isEmpty = false ∧ start.UnderWay s.reader owns) ∨
      (plan.isEmpty = true ∧ start.Over s.reader owns none) := by
  obtain ⟨rows, rfl⟩ := Cursor.eq_of_make hc
  cases hplan : plan.isEmpty with
  | false => exact .inl ⟨rfl, rfl, rfl, rfl, rfl⟩
  | true => exact .inr ⟨rfl, ⟨rfl, rfl, rfl⟩, rfl, rfl, rfl⟩

/-- Whatever trouble its walk meets and in whatever order it is pulled and closed, a cursor keeps to its
protocol. -/
theorem keepsProtocol_of_make {ρ : Type} {plan : Plan ρ} {known : Bool} {size : JsonValue} {c : Cursor}
    (hc : Cursor.make plan known size owns = .ok c) (t : Trouble) (s : Surroundings) (past : List Use) :
    let run := t.run ⟨c, { s with reader := c.readerAtStart s.reader }, 0⟩ past
    run.2.KeepsProtocol t s.reader owns plan.isEmpty past run.1 := by
  intro run
  rcases underWay_or_over_of_make hc s with ⟨hplan, hunder⟩ | ⟨hplan, hover⟩
  · rw [hplan]
    rcases hunder.run_cases t past with ⟨hunder, hlast, hclose⟩ | ⟨fault, hover, hended, hfault⟩
    · exact hunder.keepsProtocol hlast hclose
    · exact hover.keepsProtocol (by simpa using hended) hfault
  · rw [hplan]
    exact (hover.run t past).keepsProtocol rfl fun f hf => by cases hf

def lostOnce : Trouble := fun moment => if moment = 9 then some .readerClosed else none

/-- A cursor over who knows somebody that knows themselves, at its beginning. -/
def startOfKnows (ix : Index) (c : Cursor) : Scene :=
  ⟨c, ⟨c.readerAtStart (.opened ix), .fresh none, false⟩, 0⟩

theorem keepsProtocol_knows : ∃ ix c, Cursor.acquaintances = .ok ix ∧
    Cursor.make (Cursor.orderedPlanOfKnows ix) true (.ofInt 1) true = .ok c ∧
    let uses := [.pull .next, .pull .hasNext, .close, .pull .next]
    let run := lostOnce.run (startOfKnows ix c) uses
    run.1.map Reply.isLast = [false, true, true] ∧
      run.2.KeepsProtocol lostOnce (.opened ix) true (Cursor.orderedPlanOfKnows ix).isEmpty uses run.1 := by
  have hrun : (Cursor.acquaintances.toOption.any fun ix =>
      (Cursor.make (Cursor.orderedPlanOfKnows ix) true (.ofInt 1) true).toOption.any fun c =>
        (lostOnce.run (startOfKnows ix c) [.pull .next, .pull .hasNext, .close, .pull .next]).1.map Reply.isLast
          = [false, true, true]) = true := by
    decide +kernel
  simp only [Option.any_eq_true, toOption_eq_some, decide_eq_true_eq] at hrun
  obtain ⟨ix, hix, c, hc, hreplies⟩ := hrun
  exact ⟨ix, c, hix, hc, hreplies, keepsProtocol_of_make hc lostOnce ⟨.opened ix, .fresh none, false⟩ _⟩

end Scene

end TripleIndex
