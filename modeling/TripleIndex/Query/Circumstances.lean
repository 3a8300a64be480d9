import TripleIndex.Query.Trouble

/-!
The circumstances of a walk. While a cursor walks, somebody else may ask to cancel its query, the time limit
may pass, and a request to the reader may fail. The first two are noticed where the query looks whether it
may go on, and nowhere else; a request comes to nothing worse than a failure of the join. The moments of the
looks and of the requests are counted together. Everything else of the walk and of the cursor is as it is
when nobody interferes.
-/

namespace TripleIndex

/-- Whether a fault stops a query. Every other one is a failure of the join. -/
def Fault.isStop (f : Fault) : Bool := f.kind = .cancelled || f.kind = .timedOut

/-- Why a query must stop once its time limit has passed. There is none before it has started. -/
def Context.lateness? (c : Context) : Option Fault := if c.started then c.timeout.map .timedOut else none

/-- What each moment finds: whether the query is asked to stop, whether its time is up, and the fault that
comes in place of the answer to a request. -/
structure Circumstances where
  asked : Nat → Bool
  late : Nat → Bool
  lost : Trouble
  lost_isStop : ∀ moment f, lost moment = some f → f.isStop = false

/-- Somebody asks to cancel the query of a cursor that is not being pulled. -/
def Scene.cancel (x : Scene) : Scene := { x with surroundings := { x.surroundings with cancelled := true } }

namespace Circumstances

variable (w : Circumstances)

/-! ## The moments -/

/-- Why the query must stop at a moment, if it must. A request to cancel it comes before the time limit. -/
def interruption? (moment : Nat) (c : Context) (requested : Bool) : Option Fault :=
  match c.interruption? (requested || w.asked moment) with
  | some f => some f
  | none => if w.late moment then c.lateness? else none

/-- A look whether the query may go on. -/
def look (moment : Nat) (c : Context) (requested : Bool) : (Context × Option Fault) × Nat :=
  (c.stopFor (w.interruption? moment c requested), moment + 1)

def countRow (moment : Nat) (c : Context) (requested : Bool) : (Context × Option Fault) × Nat :=
  let counted := { c with scanned := c.scanned + 1 }
  if counted.scanned % Context.checkInterval = 0 then w.look moment counted requested
  else ((counted, none), moment)

/-! ## The walk -/

def visit (moment : Nat) (r : Reader) (requested : Bool) (l : Level) (id : DocId) (stack : List Level)
    (c : Context) : Progress × Nat :=
  match w.countRow moment c requested with
  | ((counted, some f), moment) => (.failed f counted, moment)
  | ((counted, none), moment) =>
    match w.lost.extend moment l.step r id l.parent with
    | (.error f, moment) => (.failed f counted, moment)
    | (.ok none, moment) => (.onward stack counted, moment)
    | (.ok (some b), moment) =>
      match l.below with
      | [] => (.found b stack counted, moment)
      | next :: below => w.lost.descend moment r next below b stack counted

def walkStep (moment : Nat) (r : Reader) (size : PageSize) (requested : Bool) (stack : List Level)
    (c : Context) : Progress × Nat :=
  match stack with
  | [] => (.ended c, moment)
  | top :: outer =>
    match w.look moment c requested with
    | ((stopped, some f), moment) => (.failed f stopped, moment)
    | ((c, none), moment) =>
      match w.lost.fetch moment top r size with
      | (.error f, moment) => (.failed f c, moment)
      | (.ok l, moment) =>
        match l.pending with
        | [] => (.onward outer c, moment)
        | id :: rest => w.visit moment r requested l id ({ l with pending := rest } :: outer) c

def walk (moment : Nat) (r : Reader) (size : PageSize) (requested : Bool) :
    Nat → List Level → Context → Progress × Nat
  | 0, stack, c => (.onward stack c, moment)
  | fuel + 1, stack, c =>
    match w.walkStep moment r size requested stack c with
    | (.onward stack c, moment) => walk moment r size requested fuel stack c
    | settled => settled

/-! ## The cursor -/

/-- How the walk of the next pull comes out. -/
def outcome (x : Scene) : Progress × Nat :=
  let s := x.surroundings
  let (c, context) := x.cursor.begin s.context
  w.walk x.moment s.reader c.size s.cancelled (stackWork c.stack + 1) c.stack context

def pull (x : Scene) : Except Fault Bool × Scene :=
  let (c, _) := x.cursor.begin x.surroundings.context
  let (progress, moment) := w.outcome x
  let (result, c, s) := c.conclude x.surroundings progress
  (result, ⟨c, s, moment⟩)

def hasNext (x : Scene) : Except Fault Bool × Scene :=
  match x.cursor.fault with
  | some f => (.error f, x)
  | none =>
    if x.cursor.lookahead.isSome then (.ok true, x)
    else if x.cursor.done then (.ok false, x)
    else w.pull x

def next (x : Scene) : Except Fault Binding × Scene :=
  match w.hasNext x with
  | (.error f, x) => (.error f, x)
  | (.ok _, x) =>
    match x.cursor.lookahead with
    | none => (.error .exhausted, x)
    | some b => (.ok b, x.deliver)

end Circumstances

end TripleIndex
