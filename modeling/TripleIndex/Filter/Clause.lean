import TripleIndex.Scalar

/-!
Filter queries: conjunctions of clauses, each of which asks one field for a value or for a range.
Their text quotes every value, a backslash before each quote and each backslash, and writes a star
for an open side of a range and for the query without clauses.
-/

namespace TripleIndex

inductive Clause where
  | term (field : String) (value : Scalar)
  | range (field : String) (lower upper : Option Scalar)
  deriving DecidableEq, Repr

/-- Clauses that must all hold. -/
abbrev Filter := List Clause

def escapeQuote (c : Char) : List Char :=
  if c = '\\' then ['\\', '\\'] else if c = '"' then ['\\', '"'] else [c]

def quoteChars (cs : List Char) : List Char := '"' :: cs.flatMap escapeQuote ++ ['"']

def quoteScalar (v : Scalar) : List Char := quoteChars v.formatted.toList

namespace Clause

def field : Clause → String
  | term f _ => f
  | range f _ _ => f

def boundChars : Option Scalar → List Char
  | none => ['*']
  | some v => quoteScalar v

def chars : Clause → List Char
  | term f v => f.toList ++ ':' :: quoteScalar v
  | range f lower upper =>
    f.toList ++ ':' :: '[' :: boundChars lower ++ " TO ".toList ++ boundChars upper ++ [']']

def text (c : Clause) : String := String.ofList c.chars

def isWritable : Clause → Bool
  | term _ v => v.isWritable
  | range _ lower upper => lower.all Scalar.isWritable && upper.all Scalar.isWritable

def sameBound : Option Scalar → Option Scalar → Bool
  | none, none => true
  | some a, some b => a.same b
  | _, _ => false

def same : Clause → Clause → Bool
  | term f a, term g b => f == g && a.same b
  | range f a b, range g c d => f == g && sameBound a c && sameBound b d
  | _, _ => false

end Clause

namespace Filter

/-- The text of the query that holds of every document. -/
def everything : List Char := "*:*".toList

def joinChars : List Clause → List Char
  | [] => []
  | [c] => c.chars
  | c :: cs => c.chars ++ " AND ".toList ++ joinChars cs

def chars : Filter → List Char
  | [] => everything
  | cs => joinChars cs

def text (f : Filter) : String := String.ofList f.chars

def isWritable (f : Filter) : Bool := f.all Clause.isWritable

def shown (f : Filter) : String := "FilterQuery(" ++ f.text ++ ")"

def same : Filter → Filter → Bool
  | [], [] => true
  | c :: cs, d :: ds => c.same d && same cs ds
  | _, _ => false

/-- The fields of the clauses, each once, in the order of their names. -/
def fields (f : Filter) : List String := (f.map Clause.field).eraseDups.mergeSort (· ≤ ·)

end Filter

end TripleIndex
