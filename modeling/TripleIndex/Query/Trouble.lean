import TripleIndex.Query.Cursor

/-!
Trouble on the way. A request to the reader may fail although the reader is open, and a query may be
stopped at any look whether it may go on. The moments at which this can happen are counted, and the
trouble of a moment comes in place of what would have happened there. Everything else of the walk and of
the cursor is as it is without trouble.
-/

namespace TripleIndex

/-- The fault that each moment meets, if it meets one. -/
abbrev Trouble := Nat → Option Fault

/-- A cursor with what is around it, and the number of moments that have passed. -/
structure Scene where
  cursor : Cursor
  surroundings : Surroundings
  moment : Nat

/-- What the outcome of a walk makes of a cursor. -/
def Cursor.conclude (c : Cursor) (s : Surroundings) : Progress → Except Fault Bool × Cursor × Surroundings
  | .found b stack context =>
    (.ok true, { c with lookahead := some b, stack := stack }, { s with context := context })
  | .failed f context => (.error (reported f), c.abort (reported f) s context)
  | .ended context | .onward _ context => (.ok false, c.finish s context)

theorem Cursor.pull_eq_conclude (c : Cursor) (s : Surroundings) :
    c.pull s =
      let (c, context) := c.begin s.context
      c.conclude s (walk s.reader c.size s.cancelled (stackWork c.stack + 1) c.stack context) := by
  rw [pull]
  dsimp only
  split <;> simp only [conclude, *]

namespace Scene

/-- The answer that the cursor has looked ahead at is handed out. -/
def deliver (x : Scene) : Scene :=
  { x with
    cursor := { x.cursor with lookahead := none }
    surroundings := { x.surroundings with context := x.surroundings.context.recordResult } }

def close (x : Scene) : Scene :=
  let (c, s) := x.cursor.close x.surroundings
  ⟨c, s, x.moment⟩

end Scene

namespace Trouble

variable (t : Trouble)

/-! ## The moments -/

def request {α : Type} (moment : Nat) (answer : Except Fault α) : Except Fault α × Nat :=
  match t moment with
  | some f => (.error f, moment + 1)
  | none => (answer, moment + 1)

def check (moment : Nat) (c : Context) (requested : Bool) : (Context × Option Fault) × Nat :=
  match t moment with
  | some f => (c.stopFor (some f), moment + 1)
  | none => (c.check requested, moment + 1)

def countRow (moment : Nat) (c : Context) (requested : Bool) : (Context × Option Fault) × Nat :=
  let counted := { c with scanned := c.scanned + 1 }
  if counted.scanned % Context.checkInterval = 0 then t.check moment counted requested
  else ((counted, none), moment)

def fetch (moment : Nat) (l : Level) (r : Reader) (size : PageSize) : Except Fault Level × Nat :=
  match l.pending, l.next with
  | [], some _ => t.request moment (l.fetch r size)
  | _, _ => (.ok l, moment)

def extend (moment : Nat) (c : Candidates) (r : Reader) (id : DocId) (parent : Binding) :
    Except Fault (Option Binding) × Nat :=
  match t.request moment (r.read id) with
  | (.error f, moment) => (.error f, moment)
  | (.ok fields, moment) => (c.requirePattern.bind (bindDocument · fields parent), moment)

def narrow (moment : Nat) (c : Candidates) (r : Reader) (f : Filter) : Except Fault IdSet × Nat :=
  if f.isEmpty then (.ok c.ids, moment) else t.request moment (r.evaluate f (some c.ids))

/-! ## The walk -/

def descend (moment : Nat) (r : Reader) (next : Candidates) (below : List Candidates) (b : Binding)
    (stack : List Level) (c : Context) : Progress × Nat :=
  match next.requirePattern.bind (joinFilter · b) with
  | .error f => (.failed f c, moment)
  | .ok query =>
    let counted := if query.isEmpty then c else c.recordJoin
    match t.narrow moment next r query with
    | (.error f, moment) => (.failed f counted, moment)
    | (.ok ids, moment) =>
      if ids.isEmpty then (.onward stack counted, moment)
      else (.onward (.listed next below b ids :: stack) counted, moment)

def visit (moment : Nat) (r : Reader) (requested : Bool) (l : Level) (id : DocId) (stack : List Level)
    (c : Context) : Progress × Nat :=
  match t.countRow moment c requested with
  | ((counted, some f), moment) => (.failed f counted, moment)
  | ((counted, none), moment) =>
    match t.extend moment l.step r id l.parent with
    | (.error f, moment) => (.failed f counted, moment)
    | (.ok none, moment) => (.onward stack counted, moment)
    | (.ok (some b), moment) =>
      match l.below with
      | [] => (.found b stack counted, moment)
      | next :: below => t.descend moment r next below b stack counted

def walkStep (moment : Nat) (r : Reader) (size : PageSize) (requested : Bool) (stack : List Level)
    (c : Context) : Progress × Nat :=
  match stack with
  | [] => (.ended c, moment)
  | top :: outer =>
    match t.check moment c requested with
    | ((stopped, some f), moment) => (.failed f stopped, moment)
    | ((c, none), moment) =>
      match t.fetch moment top r size with
      | (.error f, moment) => (.failed f c, moment)
      | (.ok l, moment) =>
        match l.pending with
        | [] => (.onward outer c, moment)
        | id :: rest => t.visit moment r requested l id ({ l with pending := rest } :: outer) c

def walk (moment : Nat) (r : Reader) (size : PageSize) (requested : Bool) :
    Nat → List Level → Context → Progress × Nat
  | 0, stack, c => (.onward stack c, moment)
  | fuel + 1, stack, c =>
    match t.walkStep moment r size requested stack c with
    | (.onward stack c, moment) => walk moment r size requested fuel stack c
    | settled => settled

/-! ## The cursor -/

def pull (x : Scene) : Except Fault Bool × Scene :=
  let s := x.surroundings
  let (c, context) := x.cursor.begin s.context
  let (progress, moment) :=
    t.walk x.moment s.reader c.size s.cancelled (stackWork c.stack + 1) c.stack context
  let (result, c, s) := c.conclude s progress
  (result, ⟨c, s, moment⟩)

def hasNext (x : Scene) : Except Fault Bool × Scene :=
  match x.cursor.fault with
  | some f => (.error f, x)
  | none =>
    if x.cursor.lookahead.isSome then (.ok true, x)
    else if x.cursor.done then (.ok false, x)
    else t.pull x

def next (x : Scene) : Except Fault Binding × Scene :=
  match t.hasNext x with
  | (.error f, x) => (.error f, x)
  | (.ok _, x) =>
    match x.cursor.lookahead with
    | none => (.error .exhausted, x)
    | some b => (.ok b, x.deliver)

end Trouble

end TripleIndex
