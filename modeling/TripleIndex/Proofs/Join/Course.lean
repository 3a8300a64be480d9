import TripleIndex.Query.Walk

/-!
A join as a recursion: one loop for each step of the plan, the loops of the later steps within those of
the earlier ones. A loop visits the documents of its step that agree with what is bound so far. The course
of the loops is what they come to: their answers in order, how many documents they visit, how many queries
they ask, and the fault that ends them early, if one does.
-/

namespace TripleIndex

structure Course where
  answers : List Binding
  visited : Nat
  joins : Nat
  fault : Option Fault

namespace Course

/-- Work without an answer. -/
def spent (visited joins : Nat) : Course := ⟨[], visited, joins, none⟩

def nothing : Course := spent 0 0

def answer (b : Binding) : Course := ⟨[b], 0, 0, none⟩

def failed (f : Fault) : Course := ⟨[], 0, 0, some f⟩

/-- One course after another. Nothing comes after a fault. -/
def andThen (first later : Course) : Course :=
  match first.fault with
  | some _ => first
  | none => ⟨first.answers ++ later.answers, first.visited + later.visited, first.joins + later.joins,
      later.fault⟩

def each {α : Type} (f : α → Course) : List α → Course
  | [] => nothing
  | a :: as => (f a).andThen (each f as)

variable {α : Type}

theorem andThen_of_fault {k later : Course} {f : Fault} (h : k.fault = some f) : k.andThen later = k := by
  rw [andThen, h]

theorem andThen_eq {k later : Course} (h : k.fault = none) : k.andThen later =
    ⟨k.answers ++ later.answers, k.visited + later.visited, k.joins + later.joins, later.fault⟩ := by
  rw [andThen, h]

@[simp] theorem nothing_andThen (k : Course) : nothing.andThen k = k := by
  rw [andThen_eq rfl]
  simp [nothing, spent]

@[simp] theorem andThen_nothing (k : Course) : k.andThen nothing = k := by
  cases hfault : k.fault with
  | some f => exact andThen_of_fault hfault
  | none =>
    rw [andThen_eq hfault]
    simp [nothing, spent, ← hfault]

theorem andThen_assoc (k₁ k₂ k₃ : Course) : (k₁.andThen k₂).andThen k₃ = k₁.andThen (k₂.andThen k₃) := by
  cases h₁ : k₁.fault with
  | some f => rw [andThen_of_fault h₁, andThen_of_fault h₁, andThen_of_fault h₁]
  | none =>
    cases h₂ : k₂.fault with
    | some f => rw [andThen_of_fault h₂, andThen_of_fault (by rw [andThen_eq h₁, h₂])]
    | none =>
      have h₁₂ : (k₁.andThen k₂).fault = none := by rw [andThen_eq h₁, h₂]
      rw [andThen_eq h₁₂, andThen_eq h₁, andThen_eq h₁, andThen_eq h₂]
      simp only [List.append_assoc, Nat.add_assoc]

theorem each_append (f : α → Course) (as bs : List α) :
    each f (as ++ bs) = (each f as).andThen (each f bs) := by
  induction as with
  | nil => exact (nothing_andThen _).symm
  | cons a as ih => rw [List.cons_append, each, each, ih, andThen_assoc]

theorem andThen_answer_cancel {b : Binding} {k later : Course}
    (h : (answer b).andThen k = (answer b).andThen later) : k = later := by
  rw [andThen_eq rfl, andThen_eq rfl] at h
  cases k
  cases later
  simpa [answer] using h

@[simp] theorem spent_andThen_spent (v j v' j' : Nat) :
    (spent v j).andThen (spent v' j') = spent (v + v') (j + j') := rfl

end Course

/-! ## Loops -/

namespace Candidates

/-- What comes of a document: `inner` runs with the binding that it gives. -/
def meets (c : Candidates) (r : Reader) (parent : Binding) (inner : Binding → Course) (id : DocId) :
    Course :=
  match c.extend r id parent with
  | .error f => .failed f
  | .ok none => .nothing
  | .ok (some b) => inner b

def loop (c : Candidates) (r : Reader) (parent : Binding) (inner : Binding → Course) : List DocId → Course :=
  .each fun id => (Course.spent 1 0).andThen (c.meets r parent inner id)

/-- The loop of a step over those of its documents that agree with a binding. All of them do if the
binding says nothing about them, and then no query is asked. -/
def refine (c : Candidates) (r : Reader) (inner : Binding → Course) (b : Binding) : Course :=
  match c.requirePattern.bind (joinFilter · b) with
  | .error f => .failed f
  | .ok query =>
    (Course.spent 0 (if query.isEmpty then 0 else 1)).andThen
      (match c.narrow r query with
      | .error f => .failed f
      | .ok ids => c.loop r b inner ids.toList)

end Candidates

/-- The loops of steps with a binding. Within the last of them the binding is an answer. -/
def loops (r : Reader) : List Candidates → Binding → Course
  | [], b => .answer b
  | c :: below, b => c.refine r (loops r below) b

/-- The loops of a plan. The first one goes over all documents of its step, which must have an order. -/
def planLoops (r : Reader) : List Candidates → Course
  | [] => .nothing
  | driver :: below =>
    match Reader.checkOrder driver.ids with
    | .error f => .failed f
    | .ok () => driver.loop r [] (loops r below) driver.ids.toList

theorem joinClauses_nil (slots : List (Slot × Term)) : joinClauses [] slots = .ok [] := by
  induction slots with
  | nil => rfl
  | cons slot slots ih =>
    obtain ⟨place, t⟩ := slot
    cases t with
    | var name => exact ih
    | _ => exact ih

/-- The loops of a plan are those of its steps with nothing bound yet, as nothing narrows the first one. -/
theorem planLoops_eq_loops {r : Reader} {driver : Candidates} {below : List Candidates}
    (hpattern : driver.pattern.isSome) (horder : Reader.checkOrder driver.ids = .ok ()) :
    planLoops r (driver :: below) = loops r (driver :: below) [] := by
  obtain ⟨p, hp⟩ := Option.isSome_iff_exists.1 hpattern
  have hquery : driver.requirePattern.bind (joinFilter · []) = .ok [] := by
    rw [Candidates.requirePattern, hp]
    exact joinClauses_nil p.slots
  rw [planLoops, loops, Candidates.refine, horder, hquery]
  exact (Course.nothing_andThen _).symm

end TripleIndex
