import TripleIndex.Proofs.Cursors.Protocol

/-!
Positions do not matter to a cursor. A step knows where its pattern stood among the patterns that it was
evaluated with, which a listing shows and no walk looks at. So steps that differ in nothing else are walked
alike, and their cursors give the same replies and leave the same behind, whatever trouble they meet.
-/

namespace TripleIndex

def Candidates.unplaced (c : Candidates) : Candidates := { c with position := .null }

def Level.unplaced (l : Level) : Level :=
  { l with step := l.step.unplaced, below := l.below.map Candidates.unplaced }

def Progress.unplaced : Progress → Progress
  | .ended c => .ended c
  | .failed f c => .failed f c
  | .found b stack c => .found b (stack.map Level.unplaced) c
  | .onward stack c => .onward (stack.map Level.unplaced) c

def Cursor.unplaced (c : Cursor) : Cursor :=
  { c with steps := c.steps.map Candidates.unplaced, stack := c.stack.map Level.unplaced }

def Scene.unplaced (x : Scene) : Scene := { x with cursor := x.cursor.unplaced }

/-! ## The work -/

theorem planWork_unplaced (steps : List Candidates) :
    planWork (steps.map Candidates.unplaced) = planWork steps := by
  induction steps with
  | nil => rfl
  | cons c below ih => rw [List.map_cons, planWork, planWork, ih]; rfl

theorem Level.work_unplaced (l : Level) : l.unplaced.work = l.work := by
  show l.unplaced.left * (1 + planWork (l.below.map Candidates.unplaced)) + 1 = _
  rw [planWork_unplaced]
  rfl

theorem stackWork_unplaced (stack : List Level) : stackWork (stack.map Level.unplaced) = stackWork stack := by
  rw [stackWork, stackWork, List.map_map]
  exact congrArg total (List.map_congr_left fun l _ => l.work_unplaced)

theorem initialStack_unplaced (steps : List Candidates) :
    Cursor.initialStack (steps.map Candidates.unplaced) = (Cursor.initialStack steps).map Level.unplaced := by
  cases steps <;> rfl

theorem Level.fetch_unplaced (l : Level) (r : Reader) (size : PageSize) :
    l.unplaced.fetch r size = (l.fetch r size).map Level.unplaced := by
  obtain ⟨step, below, parent, pending, next⟩ := l
  cases pending with
  | cons id rest => rfl
  | nil =>
    cases next with
    | none => rfl
    | some mark =>
      have hids : step.unplaced.ids = step.ids := rfl
      unfold fetch
      simp only [unplaced, hids]
      cases r.snapshot with
      | error f => rfl
      | ok ix =>
        cases Reader.checkOrder step.ids with
        | error f => rfl
        | ok u => cases size.count <;> rfl

namespace Cursor

theorem begin_unplaced (c : Cursor) (context : Context) :
    c.unplaced.begin context = (c.begin context).map unplaced id := by
  obtain ⟨steps, size, owns, stack, lookahead, fault, started, done⟩ := c
  cases started with
  | true => rfl
  | false =>
    rw [begin, begin]
    simp only [unplaced, Bool.false_eq_true, if_false, initialStack_unplaced, List.length_map,
      Prod.map, id]

theorem conclude_unplaced (c : Cursor) (s : Surroundings) (p : Progress) :
    c.unplaced.conclude s p.unplaced =
      (c.conclude s p).map id (.map unplaced id) := by
  cases p <;> rfl

end Cursor

namespace Trouble

variable (t : Trouble) (moment : Nat)

/-! ## The walk -/

theorem fetch_unplaced (l : Level) (r : Reader) (size : PageSize) :
    t.fetch moment l.unplaced r size =
      (t.fetch moment l r size).map (·.map Level.unplaced) id := by
  rw [fetch, Level.fetch_unplaced]
  obtain ⟨step, below, parent, pending, next⟩ := l
  cases pending with
  | cons id rest => rfl
  | nil =>
    cases next with
    | none => rfl
    | some mark =>
      show t.request moment _ = (t.request moment _).map _ id
      rw [request, request]
      cases t moment <;> rfl

theorem descend_unplaced (r : Reader) (next : Candidates) (below : List Candidates) (b : Binding)
    (stack : List Level) (c : Context) :
    t.descend moment r next.unplaced (below.map Candidates.unplaced) b (stack.map Level.unplaced) c =
      (t.descend moment r next below b stack c).map Progress.unplaced id := by
  have hpattern : next.unplaced.requirePattern = next.requirePattern := rfl
  have hnarrow : t.narrow moment next.unplaced r = t.narrow moment next r := rfl
  rw [descend, descend, hpattern, hnarrow]
  cases next.requirePattern.bind (joinFilter · b) with
  | error f => rfl
  | ok query =>
    dsimp only
    obtain ⟨ids, later⟩ := t.narrow moment next r query
    cases ids with
    | error f => rfl
    | ok ids =>
      dsimp only
      split <;> rfl

theorem visit_unplaced (r : Reader) (requested : Bool) (l : Level) (doc : DocId) (stack : List Level)
    (c : Context) :
    t.visit moment r requested l.unplaced doc (stack.map Level.unplaced) c =
      (t.visit moment r requested l doc stack c).map Progress.unplaced id := by
  have hextend : ∀ counted, t.extend counted l.unplaced.step r doc l.unplaced.parent =
      t.extend counted l.step r doc l.parent := fun _ => rfl
  rw [visit, visit]
  obtain ⟨⟨counted, stop⟩, later⟩ := t.countRow moment c requested
  cases stop with
  | some f => rfl
  | none =>
    dsimp only
    rw [hextend]
    obtain ⟨extended, last⟩ := t.extend later l.step r doc l.parent
    rcases extended with f | _ | b
    · rfl
    · rfl
    · obtain ⟨step, below, parent, pending, next⟩ := l
      cases below with
      | nil => rfl
      | cons next below => exact descend_unplaced t last r next below b stack counted

theorem walkStep_unplaced (r : Reader) (size : PageSize) (requested : Bool) (stack : List Level)
    (c : Context) :
    t.walkStep moment r size requested (stack.map Level.unplaced) c =
      (t.walkStep moment r size requested stack c).map Progress.unplaced id := by
  cases stack with
  | nil => rfl
  | cons top outer =>
    rw [List.map_cons, walkStep, walkStep]
    obtain ⟨⟨looked, stop⟩, later⟩ := t.check moment c requested
    cases stop with
    | some f => rfl
    | none =>
      dsimp only
      rw [fetch_unplaced]
      obtain ⟨fetched, last⟩ := t.fetch later top r size
      cases fetched with
      | error f => rfl
      | ok l =>
        obtain ⟨step, below, parent, pending, next⟩ := l
        cases pending with
        | nil => rfl
        | cons id rest =>
          exact visit_unplaced t last r requested ⟨step, below, parent, id :: rest, next⟩ id
            (⟨step, below, parent, rest, next⟩ :: outer) looked

theorem walk_unplaced (r : Reader) (size : PageSize) (requested : Bool) (fuel : Nat) (stack : List Level)
    (c : Context) :
    t.walk moment r size requested fuel (stack.map Level.unplaced) c =
      (t.walk moment r size requested fuel stack c).map Progress.unplaced id := by
  induction fuel generalizing moment stack c with
  | zero => rfl
  | succ fuel ih =>
    rw [walk, walk, walkStep_unplaced]
    obtain ⟨progress, later⟩ := t.walkStep moment r size requested stack c
    cases progress with
    | onward stack' c' => exact ih later stack' c'
    | ended d => rfl
    | failed f d => rfl
    | found b stack' d => rfl

/-! ## The cursor -/

variable (x : Scene)

theorem pull_unplaced : t.pull x.unplaced = (t.pull x).map id Scene.unplaced := by
  obtain ⟨c, s, moment⟩ := x
  rw [pull, pull]
  dsimp only [Scene.unplaced]
  rw [Cursor.begin_unplaced]
  obtain ⟨begun, context⟩ := c.begin s.context
  have hwork : stackWork begun.unplaced.stack = stackWork begun.stack := stackWork_unplaced begun.stack
  have hwalk := walk_unplaced t moment s.reader begun.size s.cancelled (stackWork begun.stack + 1)
    begun.stack context
  dsimp only [Prod.map, id]
  rw [hwork]
  change t.walk moment s.reader begun.unplaced.size s.cancelled _ begun.unplaced.stack context = _ at hwalk
  rw [hwalk]
  dsimp only [Prod.map]
  rw [Cursor.conclude_unplaced]
  rfl

theorem hasNext_unplaced : t.hasNext x.unplaced = (t.hasNext x).map id Scene.unplaced := by
  have hpull := pull_unplaced t x
  obtain ⟨⟨steps, size, owns, stack, lookahead, fault, started, done⟩, s, moment⟩ := x
  cases fault with
  | some f => rfl
  | none =>
    cases lookahead with
    | some b => rfl
    | none =>
      cases done with
      | true => rfl
      | false => exact hpull

theorem next_unplaced : t.next x.unplaced = (t.next x).map id Scene.unplaced := by
  rw [next, next, hasNext_unplaced]
  obtain ⟨more, y⟩ := t.hasNext x
  cases more with
  | error f => rfl
  | ok more =>
    obtain ⟨⟨steps, size, owns, stack, lookahead, fault, started, done⟩, s, moment⟩ := y
    cases lookahead <;> rfl

theorem call_unplaced (p : Pull) : t.call x.unplaced p = (t.call x p).map id Scene.unplaced := by
  cases p with
  | hasNext =>
    rw [call, call, hasNext_unplaced]
    obtain ⟨result, y⟩ := t.hasNext x
    cases result <;> rfl
  | next =>
    rw [call, call, next_unplaced]
    obtain ⟨result, y⟩ := t.next x
    cases result <;> rfl

theorem run_unplaced (uses : List Use) :
    t.run x.unplaced uses = (t.run x uses).map id Scene.unplaced := by
  induction uses generalizing x with
  | nil => rfl
  | cons use uses ih =>
    cases use with
    | pull p =>
      rw [run, run, call_unplaced]
      obtain ⟨reply, y⟩ := t.call x p
      dsimp only [Prod.map, id]
      rw [ih]
      rfl
    | close => exact ih x.close

end Trouble

end TripleIndex
