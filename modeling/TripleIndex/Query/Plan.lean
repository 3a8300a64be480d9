import TripleIndex.Compile
import TripleIndex.IdSet
import TripleIndex.Query.Explain

/-!
Join plans. The documents that a pattern selects on its own are its candidates. A plan joins the
patterns in the order of the number of their candidates: the first one drives the join and the others
refine it. There is one plan for every join without an answer, and merging it with any plan gives it
again.
-/

namespace TripleIndex

/-- What the evaluation of one pattern has given. A failed one has an error and no documents. One that
was made elsewhere may have any position and any error. -/
structure Candidates where
  pattern : Option Pattern
  position : Scalar
  ids : IdSet
  query : Option Filter
  error : Option Scalar
  deriving DecidableEq, Repr

namespace Candidates

def cardinality (c : Candidates) : Nat := c.ids.size

def failed (c : Candidates) : Bool := c.error.isSome

def isWritable (c : Candidates) : Bool :=
  c.pattern.all Pattern.isWritable && c.query.all Filter.isWritable

/-- A step that stands for no pattern. -/
def placeholder : Candidates := ⟨none, .int (-1), .empty, none, none⟩

def atMost (a b : Candidates) : Bool := a.cardinality ≤ b.cardinality

def role (number : Nat) : String := if number = 1 then "driver" else "refinement"

/-- The step as a listing shows it under its number. -/
def explained (c : Candidates) (number : Nat) : ExplainedStep :=
  ⟨.ofInt number, .ofText (role number), .scalar c.position,
    .ofText ((c.pattern.map Pattern.text).getD ""), .ofText ((c.query.map Filter.text).getD ""),
    .ofInt c.cardinality, .scalar (c.error.getD .null)⟩

end Candidates

/-- A plan may carry the reader that its candidates were read with, `ρ` being how readers are
named. -/
inductive Plan (ρ : Type) where
  | nothing
  | joined (steps : List Candidates) (graph : Option String) (reader : Option ρ)
  deriving DecidableEq, Repr

namespace Plan

variable {ρ : Type}

def steps : Plan ρ → List Candidates
  | nothing => [.placeholder, .placeholder]
  | joined steps _ _ => steps

def graph : Plan ρ → Option String
  | nothing => none
  | joined _ graph _ => graph

def reader : Plan ρ → Option ρ
  | nothing => none
  | joined _ _ reader => reader

def isNothing : Plan ρ → Bool
  | nothing => true
  | joined .. => false

/-- Whether the join has no answer because nothing drives it. -/
def isEmpty (p : Plan ρ) : Bool :=
  match p.steps with
  | [] => true
  | driver :: _ => driver.cardinality = 0

def size (p : Plan ρ) : Nat := p.steps.length

def refinements (p : Plan ρ) : List Candidates := p.steps.drop 1

/-- The same steps without graph and reader. -/
def stripped (p : Plan ρ) : Plan ρ := joined p.steps none none

/-- Steps by ascending number of candidates; equal numbers keep the order in which they came. -/
def sorted (steps : List Candidates) : List Candidates := steps.mergeSort Candidates.atMost

def order (steps : List Candidates) (graph : Option String) (reader : Option ρ) : Plan ρ :=
  let ordered := joined (sorted steps) graph reader
  if ordered.isEmpty then nothing else ordered

/-- One plan for the patterns of two, which should have been read from one snapshot. -/
def merge (first second : Plan ρ) : Plan ρ :=
  if first.isEmpty || second.isEmpty then nothing
  else order (first.steps ++ second.steps) first.graph (first.reader <|> second.reader)

def explainSteps (steps : List Candidates) : List ExplainedStep :=
  (steps.zipIdx 1).map fun (c, number) => c.explained number

def explain (p : Plan ρ) : Explanation := ⟨.ofText (p.graph.getD ""), explainSteps p.steps, p.isEmpty⟩

theorem isEmpty_nothing : (nothing : Plan ρ).isEmpty = true := rfl

theorem isEmpty_order (steps : List Candidates) (graph : Option String) (reader : Option ρ) :
    (order steps graph reader).isEmpty = (order steps graph reader).isNothing := by
  simp only [order]
  split
  · rfl
  · next h => simpa [isNothing] using h

end Plan

end TripleIndex
