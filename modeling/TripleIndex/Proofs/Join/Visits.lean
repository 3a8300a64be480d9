import TripleIndex.Proofs.Join.Drain

/-!
The documents that a walk visits, one after another. Every visit is counted. In a join of one step a visit leaves
its level and enters no other, so what has been visited and what is left of the step are its documents in
their order, over all pages and all pulls.
-/

namespace TripleIndex

/-! ## Visits -/

def visited? (r : Reader) (size : PageSize) (requested : Bool) (stack : List Level) (c : Context) :
    Option DocId :=
  match stack with
  | [] => none
  | top :: _ =>
    match c.check requested, top.fetch r size with
    | (_, none), .ok l => l.pending.head?
    | _, _ => none

/-- The documents that the walk visits on its way to the next answer. -/
def visits (r : Reader) (size : PageSize) (requested : Bool) : Nat → List Level → Context → List DocId
  | 0, _, _ => []
  | fuel + 1, stack, c =>
    (visited? r size requested stack c).toList ++
      match walkStep r size requested stack c with
      | .onward stack c => visits r size requested fuel stack c
      | _ => []

namespace Cursor

/-- The documents that the next call visits. None are visited when there is an answer already or nothing more
to come. -/
def callVisits (c : Cursor) (s : Surroundings) : List DocId :=
  if c.fault.isSome || c.lookahead.isSome || c.done then []
  else
    let (c, context) := c.begin s.context
    visits s.reader c.size s.cancelled (stackWork c.stack + 1) c.stack context

/-- The documents that a run of calls visits, given fuel. -/
def drainVisits : Nat → Option Nat → Cursor → Surroundings → List DocId
  | 0, _, _, _ => []
  | fuel + 1, limit, c, s =>
    if limit = some 0 then []
    else
      c.callVisits s ++
        match c.next s with
        | (.ok _, c, s) => drainVisits fuel (limit.map (· - 1)) c s
        | _ => []

end Cursor

/-! ## Every visit is counted -/

namespace Context

variable {c : Context} {requested : Bool}

theorem scanned_stopFor (c : Context) (reason : Option Fault) : (c.stopFor reason).1.scanned = c.scanned := by
  cases reason with
  | none => rfl
  | some f => cases f <;> rfl

theorem scanned_countRow (c : Context) (requested : Bool) : (c.countRow requested).1.scanned = c.scanned + 1 := by
  unfold countRow
  dsimp only
  split
  · exact scanned_stopFor _ _
  · rfl

end Context

section Counts

variable {r : Reader} {size : PageSize} {requested : Bool} {c : Context}

theorem scanned_descend (next : Candidates) (below : List Candidates) (b : Binding) (stack : List Level) :
    (descend r next below b stack c).context.scanned = c.scanned := by
  unfold descend
  split
  · rfl
  · next query _ =>
    have hcounted : (if query.isEmpty then c else c.recordJoin).scanned = c.scanned := by
      split
      · rfl
      · rfl
    dsimp only
    split
    · exact hcounted
    · split
      · exact hcounted
      · exact hcounted

theorem scanned_visit (l : Level) (id : DocId) (stack : List Level) :
    (visit r requested l id stack c).context.scanned = c.scanned + 1 := by
  have hcount := c.scanned_countRow requested
  unfold visit
  split
  · next counted f heq =>
    rw [heq] at hcount
    exact hcount
  · next counted heq =>
    rw [heq] at hcount
    split
    · exact hcount
    · exact hcount
    · split
      · exact hcount
      · exact (scanned_descend ..).trans hcount

theorem scanned_walkStep (r : Reader) (size : PageSize) (requested : Bool) (stack : List Level) (c : Context) :
    (walkStep r size requested stack c).context.scanned =
      c.scanned + (visited? r size requested stack c).toList.length := by
  cases stack with
  | nil => rfl
  | cons top outer =>
    have hcheck := c.scanned_stopFor (c.interruption? requested)
    rw [walkStep, visited?]
    rw [← Context.check] at hcheck
    cases hstopped : c.check requested with
    | mk stopped reason =>
      rw [hstopped] at hcheck
      cases reason with
      | some f => exact hcheck
      | none =>
        cases top.fetch r size with
        | error f => exact hcheck
        | ok l =>
          dsimp only
          cases l.pending with
          | nil => exact hcheck
          | cons id rest => exact (scanned_visit l id _).trans (congrArg (· + 1) hcheck)

theorem scanned_walk (r : Reader) (size : PageSize) (requested : Bool) (fuel : Nat) (stack : List Level)
    (c : Context) : (walk r size requested fuel stack c).context.scanned =
      c.scanned + (visits r size requested fuel stack c).length := by
  induction fuel generalizing stack c with
  | zero => rfl
  | succ fuel ih =>
    have hstep := scanned_walkStep r size requested stack c
    rw [walk, visits, List.length_append, ← Nat.add_assoc, ← hstep]
    cases walkStep r size requested stack c with
    | onward stack d => exact ih stack d
    | _ => rfl

end Counts

namespace Cursor

theorem scanned_begin (c : Cursor) (context : Context) : (c.begin context).2.scanned = context.scanned := by
  unfold begin
  split
  · rfl
  · dsimp only
    split
    · rfl
    · rfl

theorem scanned_hasNext (c : Cursor) (s : Surroundings) :
    (c.hasNext s).2.2.context.scanned = s.context.scanned + (c.callVisits s).length := by
  unfold hasNext callVisits
  cases c.fault with
  | some f => rfl
  | none =>
    cases hlookahead : c.lookahead with
    | some b => simp
    | none =>
      cases hdone : c.done with
      | true => simp
      | false =>
        have hbegin := c.scanned_begin s.context
        simp only [Option.isSome_none, Bool.false_or, Bool.false_eq_true, if_false, pull]
        rw [← hbegin, ← scanned_walk]
        cases walk s.reader _ s.cancelled _ _ _ with
        | failed f d =>
          show (failContext d (reported f)).scanned = d.scanned
          unfold failContext
          split <;> rfl
        | _ => rfl

theorem scanned_next (c : Cursor) (s : Surroundings) :
    (c.next s).2.2.context.scanned = s.context.scanned + (c.callVisits s).length := by
  have hcount := c.scanned_hasNext s
  unfold next
  split
  · next heq =>
    rw [heq] at hcount
    exact hcount
  · next heq =>
    rw [heq] at hcount
    split
    · exact hcount
    · exact hcount

theorem scanned_drainFrom (fuel : Nat) (limit : Option Nat) (c : Cursor) (s : Surroundings) :
    (drainFrom fuel limit c s).surroundings.context.scanned =
      s.context.scanned + (drainVisits fuel limit c s).length := by
  induction fuel generalizing limit c s with
  | zero => rfl
  | succ fuel ih =>
    have hcount := c.scanned_next s
    rw [drainFrom, drainVisits]
    split
    · rfl
    · rw [List.length_append, ← Nat.add_assoc, ← hcount]
      rcases c.next s with ⟨answered, c', s'⟩
      cases answered with
      | ok b => exact ih _ c' s'
      | error f => cases f <;> rfl

end Cursor

/-! ## Joins of one step -/

namespace Progress

def stack : Progress → List Level
  | found _ stack _ | onward stack _ => stack
  | ended _ | failed _ _ => []

end Progress

/-- The documents of a level that it has still to visit. -/
def Level.unvisited (l : Level) : List DocId :=
  l.pending ++ match l.next with
    | none => []
    | some mark => l.step.ids.toList.drop (Reader.passed l.step.ids mark)

def AreLast (stack : List Level) : Prop := ∀ l ∈ stack, l.below = []

def unvisited (stack : List Level) : List DocId := stack.flatMap Level.unvisited

section Single

variable {ix : Index} {n : Int} {hn : 1 ≤ n} {requested : Bool} {stack : List Level} {c : Context}

/-- Fetching a page takes nothing away, and only at the end of a level nothing is pending. -/
theorem Level.unvisited_fetch {l fetched : Level} (h : l.fetch (.opened ix) (.rows n hn) = .ok fetched) :
    fetched.below = l.below ∧ fetched.unvisited = l.unvisited ∧ (fetched.pending = [] → fetched.unvisited = []) := by
  obtain ⟨step, below, parent, pending, next⟩ := l
  cases pending with
  | cons id rest =>
    cases h
    exact ⟨rfl, rfl, fun hempty => by cases hempty⟩
  | nil =>
    cases next with
    | none =>
      cases h
      exact ⟨rfl, rfl, fun _ => rfl⟩
    | some mark =>
      obtain ⟨rows, rfl⟩ := Int.eq_ofNat_of_zero_le (Int.le_trans (by decide) hn)
      obtain ⟨_, -, h⟩ := bind_eq_ok.1 h
      obtain ⟨_, -, h⟩ := bind_eq_ok.1 h
      cases h
      have hpage := @Reader.page_append_drop step.ids mark rows (by omega)
      dsimp only [unvisited] at hpage ⊢
      generalize Reader.pageFrom step.ids.toList (Reader.passed step.ids mark) rows = page at hpage ⊢
      rw [List.nil_append, ← hpage]
      by_cases hshort : (page.length : Int) < rows
      · simp only [hshort, if_true, List.append_nil]
        exact ⟨trivial, trivial, id⟩
      · -- a page that is not short has something on it
        simp only [hshort, if_false]
        refine ⟨trivial, trivial, ?_⟩
        rintro rfl
        rw [List.length_nil] at hshort
        omega

theorem stack_visit {l : Level} {id : DocId} (hlast : l.below = [])
    (hgoes : ∀ f d, visit (.opened ix) requested l id stack c ≠ .failed f d) :
    (visit (.opened ix) requested l id stack c).stack = stack := by
  unfold visit at hgoes ⊢
  rcases hcount : c.countRow requested with ⟨counted, _ | f⟩
  · rw [hcount] at hgoes
    cases hextend : l.step.extend (.opened ix) id l.parent with
    | error f =>
      rw [hextend] at hgoes
      exact absurd rfl (hgoes f counted)
    | ok extended =>
      cases extended with
      | none => rfl
      | some b =>
        simp only [hlast]
        rfl
  · rw [hcount] at hgoes
    exact absurd rfl (hgoes f counted)

theorem walkStep_unvisited (hlast : AreLast stack)
    (hgoes : ∀ f d, walkStep (.opened ix) (.rows n hn) requested stack c ≠ .failed f d) :
    AreLast (walkStep (.opened ix) (.rows n hn) requested stack c).stack ∧
      (visited? (.opened ix) (.rows n hn) requested stack c).toList ++
          unvisited (walkStep (.opened ix) (.rows n hn) requested stack c).stack = unvisited stack := by
  cases stack with
  | nil => exact ⟨hlast, rfl⟩
  | cons top outer =>
    obtain ⟨htop, houter⟩ := List.forall_mem_cons.1 hlast
    rw [visited?]
    rw [walkStep] at hgoes ⊢
    -- `hgoes` excludes a failed check or fetch. A fetch only moves visits between the parts of its level.
    cases hcheck : c.check requested with
    | mk stopped reason =>
      rw [hcheck] at hgoes
      cases reason with
      | some f => exact absurd rfl (hgoes f stopped)
      | none =>
        cases hfetch : top.fetch (.opened ix) (.rows n hn) with
        | error f =>
          rw [hfetch] at hgoes
          exact absurd rfl (hgoes f stopped)
        | ok l =>
          rw [hfetch] at hgoes
          obtain ⟨hbelow, hleft, hend⟩ := Level.unvisited_fetch hfetch
          dsimp only at hgoes ⊢
          have hstack : unvisited (top :: outer) = l.unvisited ++ unvisited outer := by
            rw [unvisited, List.flatMap_cons, hleft, unvisited]
          rw [hstack]
          cases hpending : l.pending with
          | nil =>
            rw [hend hpending]
            exact ⟨houter, rfl⟩
          | cons id rest =>
            rw [hpending] at hgoes
            have hl : l.below = [] := hbelow.trans htop
            dsimp only
            rw [stack_visit hl hgoes]
            refine ⟨List.forall_mem_cons.2 ⟨hl, houter⟩, ?_⟩
            simp [unvisited, Level.unvisited, hpending]

theorem walk_unvisited {fuel : Nat} (hlast : AreLast stack)
    (hgoes : ∀ f d, walk (.opened ix) (.rows n hn) requested fuel stack c ≠ .failed f d) :
    AreLast (walk (.opened ix) (.rows n hn) requested fuel stack c).stack ∧
      visits (.opened ix) (.rows n hn) requested fuel stack c ++
          unvisited (walk (.opened ix) (.rows n hn) requested fuel stack c).stack = unvisited stack := by
  induction fuel generalizing stack c with
  | zero => exact ⟨hlast, rfl⟩
  | succ fuel ih =>
    have hstep := @walkStep_unvisited ix n hn requested stack c hlast
    rw [walk] at hgoes ⊢
    rw [visits]
    cases hprogress : walkStep (.opened ix) (.rows n hn) requested stack c with
    | onward left d =>
      rw [hprogress] at hstep hgoes
      obtain ⟨hleft, hvisited⟩ := hstep fun f d heq => by cases heq
      obtain ⟨hrest, hvisits⟩ := ih hleft hgoes
      refine ⟨hrest, ?_⟩
      dsimp only [Progress.stack] at hvisited hvisits ⊢
      rw [List.append_assoc, hvisits, hvisited]
    | _ =>
      rw [hprogress] at hstep hgoes
      rw [List.append_nil]
      exact hstep hgoes

end Single

namespace Cursor

variable {ix : Index} {k : Course} {c : Cursor} {s : Surroundings}

theorem callVisits_eq (hfault : c.fault = none) (hlookahead : c.lookahead = none) (hdone : c.done = false)
    (hstarted : c.started = true) : c.callVisits s =
      visits s.reader c.size s.cancelled (stackWork c.stack + 1) c.stack s.context := by
  rw [callVisits, begin_of_started hstarted]
  simp [hfault, hlookahead, hdone]

theorem next_of_started (hfault : c.fault = none) (hlookahead : c.lookahead = none) (hdone : c.done = false)
    (hstarted : c.started = true) : c.next s =
      match walk s.reader c.size s.cancelled (stackWork c.stack + 1) c.stack s.context with
      | .found b stack d =>
        (.ok b, { c with lookahead := none, stack := stack }, { s with context := d.recordResult })
      | .failed f d => (.error (reported f), c.abort (reported f) s d)
      | .ended d | .onward _ d => (.error .exhausted, c.finish s d) := by
  rw [next, hasNext_eq_pull hfault hlookahead hdone, pull, begin_of_started hstarted]
  dsimp only
  cases walk s.reader c.size s.cancelled (stackWork c.stack + 1) c.stack s.context with
  | found b stack d => rfl
  | failed f d => rfl
  | _ => simp only [finish, hlookahead]

/-- The calls of a drained join of one step visit what is left of the step. -/
theorem Offers.drainVisits (h : c.Offers ix k s) (hk : k.fault = none) (hlookahead : c.lookahead = none)
    (hlast : AreLast c.stack) {fuel : Nat} (hfuel : c.workLeft < fuel) :
    drainVisits fuel none c s = unvisited c.stack := by
  -- each pull visits the first part of what is left, up to its answer
  induction fuel generalizing k c s with
  | zero => exact absurd hfuel (Nat.not_lt_zero _)
  | succ fuel ih =>
    obtain ⟨n, hn, hsize⟩ := h.size
    have hnext : c.next s = _ := next_of_started h.fault hlookahead h.done h.started
    rw [Cursor.drainVisits, if_neg (by simp), callVisits_eq h.fault hlookahead h.done h.started]
    rw [h.reader, hsize, h.going] at hnext ⊢
    have hfollows := walk_follows ix n hn (stackWork c.stack + 1) h.time c.stack
    have hcourse : stackCourse (.opened ix) c.stack = k := by
      rw [← h.course, ahead, hlookahead]
    have hgoes : ∀ f d, walk (.opened ix) (.rows n hn) false (stackWork c.stack + 1) c.stack s.context ≠
        .failed f d := by
      intro f d heq
      rw [heq] at hfollows
      obtain ⟨visited, joins, hrest, -⟩ := hfollows
      rw [← hcourse, hrest] at hk
      cases hk
    obtain ⟨hleft, hvisits⟩ := walk_unvisited hlast hgoes
    cases hwalk : walk (.opened ix) (.rows n hn) false (stackWork c.stack + 1) c.stack s.context with
    -- the fuel is more than the work on the stack, so the walk does not stop on its way
    | onward stack d => exact absurd hwalk (walk_ne_onward (Nat.lt_succ_self _))
    | failed f d => exact absurd hwalk (hgoes f d)
    | ended d =>
      rw [hwalk] at hnext hvisits
      rw [hnext, ← hvisits]
      rfl
    | found b stack d =>
      rw [hwalk] at hnext hvisits hleft
      rcases h.next_cases with ⟨b', past, later, c', s', rfl, hpast, -, hoffered, hoffers, -, hwork⟩ |
        ⟨-, c', s', hended, -, -⟩
      · cases hnext.symm.trans hoffered
        rw [Course.andThen_eq hpast] at hk
        rw [hnext, ← hvisits]
        exact congrArg _ (ih hoffers hk rfl hleft (by omega))
      · cases hnext.symm.trans hended

theorem drainVisits_done (hfault : c.fault = none) (hlookahead : c.lookahead = none) (hdone : c.done = true)
    (fuel : Nat) (limit : Option Nat) : drainVisits fuel limit c s = [] := by
  have hnext : c.next s = (.error .exhausted, c, s) := by
    rw [next, hasNext, hfault]
    simp [hlookahead, hdone]
  cases fuel with
  | zero => rfl
  | succ fuel =>
    rw [drainVisits, callVisits, hdone, hnext]
    simp

theorem drainVisits_step {driver : Candidates} {n : Int} (hn : 1 ≤ n) (owns : Bool)
    (hreader : s.reader = .opened ix) (hgoing : s.cancelled = false) (htime : s.context.HasTime)
    (hloops : (planLoops (.opened ix) [driver]).fault = none) :
    let c : Cursor := ⟨[driver], .rows n hn, owns, [], none, none, false, false⟩
    drainVisits c.pullsLeft none c s = driver.ids.toList := by
  intro c
  have hwaits : c.Waits := ⟨rfl, rfl, rfl, rfl⟩
  have hoffers := hwaits.offers_begun rfl rfl hreader hgoing htime
  have hlast : AreLast c.begun.stack := List.forall_mem_singleton.2 rfl
  have hbegun : drainVisits c.pullsLeft none c s =
      drainVisits c.pullsLeft none c.begun { s with context := c.running s.context } := by
    obtain ⟨fuel, hfuel⟩ : ∃ fuel, c.pullsLeft = fuel + 1 := ⟨_, rfl⟩
    rw [hfuel, drainVisits, drainVisits, if_neg (by simp), if_neg (by simp), hwaits.next_begun]
    rfl
  rw [hbegun, hoffers.drainVisits hloops rfl hlast (hwaits.workLeft_begun rfl)]
  show [Level.paged driver []].flatMap Level.unvisited = driver.ids.toList
  simp [Level.unvisited, Level.paged, Reader.passed]

end Cursor

end TripleIndex
