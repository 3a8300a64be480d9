import TripleIndex.Filter.Grammar

/-!
Building the text of a filter query clause by clause. Each clause is written when it is added, and the text
is what has been written with `AND` in between.
-/

namespace TripleIndex

/-- The texts of the clauses that have been added. -/
structure Builder where
  parts : List String

namespace Builder

def empty : Builder := ⟨[]⟩

def isEmpty (b : Builder) : Bool := b.parts.isEmpty

def length (b : Builder) : Nat := b.parts.length

/-- Add a clause, which must be one that can be written. -/
def add (b : Builder) (c : Clause) : Except Fault Builder := do
  return ⟨b.parts ++ [← written c.isWritable c.text]⟩

def addAll (b : Builder) (f : Filter) : Except Fault Builder := f.foldlM add b

def text (b : Builder) : String :=
  if b.isEmpty then String.ofList Filter.everything else " AND ".intercalate b.parts

end Builder

end TripleIndex
