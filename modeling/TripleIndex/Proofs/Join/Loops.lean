import TripleIndex.Query.Work
import TripleIndex.Proofs.Join.Course
import TripleIndex.Proofs.Outcome

/-!
The walk keeps to the loops. A stack of levels stands for the loops that are under way, each from the
document on that it has come to. A step of the walk does the next piece of their work, whatever the size of
the pages, and leaves a stack for the rest of it. So a run of steps comes to the next answer of the loops,
to their fault or to their end.
-/

namespace TripleIndex

namespace Level

/-- The loop of a level over documents of its step, with the loops of the steps below in it. -/
def loopOver (l : Level) (r : Reader) (ids : List DocId) : Course :=
  l.step.loop r l.parent (loops r l.below) ids

def unfetched (l : Level) (r : Reader) : Course :=
  match l.next with
  | none => .nothing
  | some mark =>
    match Reader.checkOrder l.step.ids with
    | .error f => .failed f
    | .ok () => l.loopOver r (l.step.ids.toList.drop (Reader.passed l.step.ids mark))

/-- What is left of the loop of a level. -/
def course (l : Level) (r : Reader) : Course := (l.loopOver r l.pending).andThen (l.unfetched r)

end Level

def stackCourse (r : Reader) (stack : List Level) : Course := .each (Level.course · r) stack

theorem stackCourse_paged (r : Reader) (driver : Candidates) (below : List Candidates) :
    stackCourse r [.paged driver below] = planLoops r (driver :: below) := by
  have hlevel : (Level.paged driver below).course r = planLoops r (driver :: below) :=
    Course.nothing_andThen _
  rw [stackCourse, Course.each, hlevel]
  exact Course.andThen_nothing _

/-! ## Pages -/

namespace Reader

theorem passed_getLast? {ids : IdSet} {stop : Nat} {last : DocId}
    (h : (ids.toList.take stop).getLast? = some last) :
    passed ids (some last) = (ids.toList.take stop).length := by
  refine Nat.le_antisymm ?_ (length_le_passed h)
  -- the list ascends, so nothing behind the part is passed
  have hlater : ∀ id ∈ ids.toList.drop stop, last.place < id.place := by
    obtain ⟨front, hfront⟩ := List.getLast?_eq_some_iff.1 h
    have hasc := ids.ascending
    rw [Ascending, ← List.take_append_drop stop ids.toList, hfront] at hasc
    intro id hid
    exact (List.pairwise_append.1 hasc).2.2 last (by simp) id hid
  have hsplit : ids.toList.takeWhile (fun id => !(last.place < id.place)) <+: ids.toList.take stop := by
    conv => lhs; rw [← List.take_append_drop stop ids.toList]
    rw [List.takeWhile_append]
    split
    · have hnil : (ids.toList.drop stop).takeWhile (fun id => !(last.place < id.place)) = [] := by
        cases hdrop : ids.toList.drop stop with
        | nil => rfl
        | cons id rest =>
          have hid := hlater id (hdrop ▸ List.mem_cons_self)
          rw [List.takeWhile_cons_of_neg (by simp [hid])]
      rw [hnil]
      exact ⟨[], by rw [List.append_nil, List.append_nil]⟩
    · exact List.takeWhile_prefix _
  exact hsplit.length_le

theorem page_append_drop (ids : IdSet) (mark : Option DocId) {rows : Nat} (hrows : 1 ≤ rows) :
    let page := pageFrom ids.toList (passed ids mark) rows
    (page ++ if (page.length : Int) < rows then [] else ids.toList.drop (passed ids page.getLast?)) =
      ids.toList.drop (passed ids mark) := by
  intro page
  have hpage : page = (ids.toList.take (passed ids mark + rows)).drop (passed ids mark) :=
    pageFrom_natCast ids.toList (passed ids mark) rows
  have hdrop : page ++ ids.toList.drop (passed ids mark + rows) = ids.toList.drop (passed ids mark) := by
    rw [hpage, List.drop_take, Nat.add_sub_cancel_left, ← List.drop_drop, List.take_append_drop]
  have hlength : page.length = min rows (ids.toList.length - passed ids mark) := by
    rw [hpage, List.drop_take, Nat.add_sub_cancel_left, List.length_take, List.length_drop]
  rw [← hdrop]
  split
  · next hshort =>
    rw [List.drop_eq_nil_of_le (by omega)]
  · next hfull =>
    have hne : ids.toList.take (passed ids mark + rows) ≠ [] := by
      refine List.ne_nil_of_length_pos ?_
      rw [List.length_take]
      omega
    -- a full page ends with the last document that has been passed, and the next page begins there
    have hlast : page.getLast? = (ids.toList.take (passed ids mark + rows)).getLast? := by
      rw [hpage, List.getLast?_drop, if_neg]
      rw [List.length_take]
      omega
    have hsome := List.getLast?_eq_some_getLast hne
    rw [hlast, hsome, passed_getLast? hsome, List.length_take, Nat.min_eq_left (by omega)]

end Reader

namespace Level

/-- Fetching a page leaves the loop as it is, and only at its end nothing is pending. -/
theorem course_fetch (l : Level) (ix : Index) (n : Int) (hn : 1 ≤ n) :
    match l.fetch (.opened ix) (.rows n hn) with
    | .error f => l.course (.opened ix) = .failed f
    | .ok fetched => fetched.course (.opened ix) = l.course (.opened ix) ∧
        (fetched.pending = [] → fetched.course (.opened ix) = .nothing) := by
  obtain ⟨step, below, parent, pending, next⟩ := l
  cases pending with
  | cons id rest => exact ⟨rfl, fun h => by cases h⟩
  | nil =>
    cases next with
    | none => exact ⟨rfl, fun _ => rfl⟩
    | some mark =>
      cases horder : Reader.checkOrder step.ids with
      | error f =>
        simp only [fetch, Reader.snapshot, horder, bind, Except.bind]
        simp only [course, unfetched, horder]
        exact Course.nothing_andThen _
      | ok u =>
        obtain ⟨rows, rfl⟩ := Int.eq_ofNat_of_zero_le (Int.le_trans (by decide) hn)
        have hpage := @Reader.page_append_drop step.ids mark rows (by omega)
        simp only [fetch, Reader.snapshot, PageSize.count, horder, bind, Except.bind, pure, Except.pure]
        generalize Reader.pageFrom step.ids.toList (Reader.passed step.ids mark) rows = page at hpage ⊢
        dsimp only at hpage
        -- a page that is not full is the last one, so an empty page has nothing after it
        have hlast : page = [] → (page.length : Int) < rows := by
          rintro rfl
          rw [List.length_nil]
          omega
        have hunfetched : (Level.mk step below parent [] (some mark)).course (.opened ix) =
            step.loop (.opened ix) parent (loops (.opened ix) below)
              (step.ids.toList.drop (Reader.passed step.ids mark)) := by
          simp only [course, unfetched, horder]
          exact Course.nothing_andThen _
        rw [hunfetched, ← hpage]
        by_cases hshort : (page.length : Int) < rows
        · simp only [hshort, if_true, course, unfetched, loopOver, Course.andThen_nothing, List.append_nil]
          exact ⟨trivial, fun hempty => by rw [hempty]; rfl⟩
        · simp only [hshort, if_false, course, unfetched, loopOver, horder]
          exact ⟨(Course.each_append _ page _).symm, fun hempty => absurd (hlast hempty) hshort⟩

theorem course_cons {l : Level} {r : Reader} {id : DocId} {rest : List DocId} (h : l.pending = id :: rest) :
    l.course r = (Course.spent 1 0).andThen ((l.step.meets r l.parent (loops r l.below) id).andThen
      (Level.course { l with pending := rest } r)) := by
  rw [course, h]
  simp only [loopOver, Candidates.loop, Course.each, Course.andThen_assoc]
  rfl

end Level

/-! ## The walk -/

/-- A time limit, if there is one, has not passed. -/
def Context.HasTime (c : Context) : Prop :=
  ∀ limit ∈ c.timeout, limit.comparable (.int 0) = true ∧ leavesNoTime limit = false

namespace Context

variable {c : Context}

theorem HasTime.check (h : c.HasTime) : c.check false = (c, none) := by
  have hexpiry : c.expiry? = none := by
    unfold expiry?
    cases hlimit : c.timeout with
    | none => rfl
    | some limit =>
      obtain ⟨hcomparable, htime⟩ := h limit hlimit
      simp [hcomparable, htime]
  have hgo : c.interruption? false = none := hexpiry
  rw [Context.check, hgo]
  rfl

/-- The context after work has been done and answers have been returned. -/
def after (c : Context) (k : Course) : Context :=
  { c with scanned := c.scanned + k.visited, joins := c.joins + k.joins,
           returned := c.returned + k.answers.length }

theorem after_andThen (c : Context) {k : Course} (h : k.fault = none) (later : Course) :
    c.after (k.andThen later) = (c.after k).after later := by
  rw [Course.andThen_eq h]
  simp only [after, List.length_append, Nat.add_assoc]

theorem HasTime.after (h : c.HasTime) (k : Course) : (c.after k).HasTime := h

theorem HasTime.countRow (h : c.HasTime) : c.countRow false = (c.after (.spent 1 0), none) := by
  have hcounted : (c.after (.spent 1 0)).check false = (c.after (.spent 1 0), none) := (h.after _).check
  have hsame : c.after (.spent 1 0) = { c with scanned := c.scanned + 1 } := rfl
  rw [hsame] at hcounted ⊢
  simp only [Context.countRow]
  split
  · exact hcounted
  · rfl

end Context

namespace Progress

def context : Progress → Context
  | ended c | failed _ c | found _ _ c | onward _ c => c

/-- What is left of the loops, with the answer or the fault that has been come to. -/
def rest (r : Reader) : Progress → Course
  | ended _ => .nothing
  | failed f _ => .failed f
  | found b stack _ => (Course.answer b).andThen (stackCourse r stack)
  | onward stack _ => stackCourse r stack

/-- One step of the walk, or several, do the first part of the work of the loops. -/
def Follows (r : Reader) (c : Context) (k : Course) (p : Progress) : Prop :=
  ∃ visited joins, k = (Course.spent visited joins).andThen (p.rest r) ∧
    p.context = c.after (.spent visited joins)

theorem follows_rest (r : Reader) (p : Progress) : p.Follows r p.context (p.rest r) :=
  ⟨0, 0, (Course.nothing_andThen _).symm, rfl⟩

theorem Follows.spent {r : Reader} {c : Context} {k : Course} {p : Progress} {visited joins : Nat}
    (h : p.Follows r (c.after (.spent visited joins)) k) :
    p.Follows r c ((Course.spent visited joins).andThen k) := by
  obtain ⟨v, j, rfl, hcontext⟩ := h
  refine ⟨visited + v, joins + j, ?_, ?_⟩
  · rw [← Course.andThen_assoc, Course.spent_andThen_spent]
  · rw [hcontext, ← Context.after_andThen c rfl, Course.spent_andThen_spent]

end Progress

section Walk

variable {ix : Index} {c : Context}

theorem descend_follows (r : Reader) (next : Candidates) (below : List Candidates) (b : Binding)
    (stack : List Level) (c : Context) :
    (descend r next below b stack c).Follows r c ((loops r (next :: below) b).andThen (stackCourse r stack)) := by
  rw [loops, Candidates.refine, descend]
  cases next.requirePattern.bind (joinFilter · b) with
  | error f => exact Progress.follows_rest r (.failed f c)
  | ok query =>
    dsimp only
    have hcounted : (if query.isEmpty then c else c.recordJoin) =
        c.after (.spent 0 (if query.isEmpty then 0 else 1)) := by
      split
      · rfl
      · rfl
    rw [hcounted, Course.andThen_assoc]
    refine Progress.Follows.spent ?_
    cases next.narrow r query with
    | error f => exact Progress.follows_rest r (.failed f _)
    | ok ids =>
      dsimp only
      by_cases hempty : ids.isEmpty = true
      · -- no level is entered where nothing agrees, and a loop over nothing is nothing
        rw [if_pos hempty, (IdSet.isEmpty_iff ids).1 hempty]
        have hnone : next.loop r b (loops r below) IdSet.empty.toList = .nothing := rfl
        rw [hnone, Course.nothing_andThen]
        exact Progress.follows_rest r (.onward stack _)
      · rw [if_neg hempty]
        have hlevel : (Level.listed next below b ids).course r =
            next.loop r b (loops r below) ids.toList := Course.andThen_nothing _
        rw [← hlevel]
        exact Progress.follows_rest r (.onward (.listed next below b ids :: stack) _)

theorem visit_follows (hc : c.HasTime) (r : Reader) (l : Level) (id : DocId) (stack : List Level) :
    (visit r false l id stack c).Follows r c ((Course.spent 1 0).andThen
      ((l.step.meets r l.parent (loops r l.below) id).andThen (stackCourse r stack))) := by
  refine Progress.Follows.spent ?_
  rw [visit, hc.countRow, Candidates.meets]
  dsimp only
  cases l.step.extend r id l.parent with
  | error f => exact Progress.follows_rest r (.failed f _)
  | ok extended =>
    cases extended with
    | none =>
      dsimp only
      rw [Course.nothing_andThen]
      exact Progress.follows_rest r (.onward stack _)
    | some b =>
      dsimp only
      cases l.below with
      | nil => exact Progress.follows_rest r (.found b stack _)
      | cons next below => exact descend_follows r next below b stack _

theorem walkStep_follows (ix : Index) (n : Int) (hn : 1 ≤ n) (hc : c.HasTime) (stack : List Level) :
    (walkStep (.opened ix) (.rows n hn) false stack c).Follows (.opened ix) c
      (stackCourse (.opened ix) stack) := by
  cases stack with
  | nil => exact Progress.follows_rest (.opened ix) (.ended c)
  | cons top outer =>
    have hfetch := top.course_fetch ix n hn
    rw [stackCourse, Course.each, ← stackCourse, walkStep, hc.check]
    dsimp only
    cases hfetched : top.fetch (.opened ix) (.rows n hn) with
    | error f =>
      rw [hfetched] at hfetch
      rw [hfetch]
      exact Progress.follows_rest (.opened ix) (.failed f c)
    | ok l =>
      rw [hfetched] at hfetch
      obtain ⟨hcourse, hlast⟩ := hfetch
      rw [← hcourse]
      dsimp only
      cases hpending : l.pending with
      | nil =>
        -- the level has come to its end, and the loops around it go on
        rw [hlast hpending, Course.nothing_andThen]
        exact Progress.follows_rest (.opened ix) (.onward outer c)
      | cons id rest =>
        rw [Level.course_cons hpending, Course.andThen_assoc, Course.andThen_assoc]
        exact visit_follows hc (.opened ix) l id ({ l with pending := rest } :: outer)

theorem walk_follows (ix : Index) (n : Int) (hn : 1 ≤ n) (fuel : Nat) (hc : c.HasTime) (stack : List Level) :
    (walk (.opened ix) (.rows n hn) false fuel stack c).Follows (.opened ix) c
      (stackCourse (.opened ix) stack) := by
  -- the rest of the course that a step leaves is the course of the steps after it
  induction fuel generalizing stack c with
  | zero => exact Progress.follows_rest (.opened ix) (.onward stack c)
  | succ fuel ih =>
    have hstep := walkStep_follows ix n hn hc stack
    unfold walk
    split
    · next stack' c' heq =>
      rw [heq] at hstep
      obtain ⟨visited, joins, hcourse, hcontext⟩ := hstep
      have hcontext : c' = c.after (.spent visited joins) := hcontext
      rw [hcourse]
      refine Progress.Follows.spent ?_
      rw [← hcontext]
      exact ih (hcontext ▸ hc.after _) stack'
    · exact hstep

theorem work_walk_lt {r : Reader} {size : PageSize} {requested : Bool} {fuel : Nat} {stack left : List Level}
    {b : Binding} {d : Context} (h : walk r size requested fuel stack c = .found b left d) :
    stackWork left < stackWork stack := by
  induction fuel generalizing stack c with
  | zero => cases h
  | succ fuel ih =>
    unfold walk at h
    split at h
    · next stack' c' hstep =>
      have hwork : stackWork stack' < stackWork stack := work_walkStep_lt (congrArg Progress.work hstep)
      exact Nat.lt_trans (ih h) hwork
    · exact work_walkStep_lt (congrArg Progress.work h)

/-! ## Termination -/

/-- The walk from a stack comes to `p` after so many steps, and `p` is no step on the way. -/
inductive Settles (r : Reader) (size : PageSize) (requested : Bool) : List Level → Context → Progress → Prop
  | here {stack : List Level} {c : Context} {p : Progress} (hstep : walkStep r size requested stack c = p)
      (hsettled : ∀ left d, p ≠ .onward left d) : Settles r size requested stack c p
  | further {stack left : List Level} {c d : Context} {p : Progress}
      (hstep : walkStep r size requested stack c = .onward left d)
      (hrest : Settles r size requested left d p) : Settles r size requested stack c p

/-- The walk settles after finitely many steps, and with more fuel than work it is run to that point. -/
theorem walk_settles {r : Reader} {size : PageSize} {requested : Bool} {fuel : Nat} {stack : List Level}
    (h : stackWork stack < fuel) : Settles r size requested stack c (walk r size requested fuel stack c) := by
  -- a step takes work off the stack, so the fuel that is left is more than what is left of the work
  induction fuel generalizing stack c with
  | zero => exact absurd h (Nat.not_lt_zero _)
  | succ fuel ih =>
    unfold walk
    split
    · next left d hstep =>
      have hwork : stackWork left < stackWork stack := work_walkStep_lt (congrArg Progress.work hstep)
      exact .further hstep (ih (Nat.lt_of_lt_of_le hwork (Nat.le_of_lt_succ h)))
    · next hsettled => exact .here rfl hsettled

end Walk

end TripleIndex
