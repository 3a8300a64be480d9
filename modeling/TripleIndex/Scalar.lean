import TripleIndex.Number.Double
import TripleIndex.Number.Shortest
import TripleIndex.Number.Written
import TripleIndex.Text.Quoted

/-!
The values of index fields and settings. Truth values are the integers zero and one when they are
compared, an integer and a floating point number are compared exactly, and the values that have an
order among themselves are the texts and the numbers. A text that holds surrogates is no string and is
kept as its code points.
-/

namespace TripleIndex

inductive Scalar where
  | text (s : String)
  | codePoints (ns : List Nat)
  | int (n : Int)
  | float (x : Double)
  | bool (b : Bool)
  | null
  deriving DecidableEq, Repr, Inhabited

/-- The values with an order: texts, integers and floating point numbers. -/
inductive Ordered where
  | text (s : String)
  | codePoints (ns : List Nat)
  | int (n : Int)
  | float (x : Double)
  deriving DecidableEq, Repr

namespace Ordered

def same : Ordered → Ordered → Bool
  | text s, text t => s == t
  | codePoints ms, codePoints ns => ms == ns
  | int m, int n => m == n
  | int m, float y => y.sameInt m
  | float x, int n => x.sameInt n
  | float x, float y => x.same y
  | _, _ => false

def lt : Ordered → Ordered → Bool
  | text s, text t => s < t
  | text s, codePoints ns => s.toList.map Char.toNat < ns
  | codePoints ns, text s => ns < s.toList.map Char.toNat
  | codePoints ms, codePoints ns => ms < ns
  | int m, int n => m < n
  | int m, float y => y.intLt m
  | float x, int n => x.ltInt n
  | float x, float y => x.lt y
  | _, _ => false

def isText : Ordered → Bool
  | text _ | codePoints _ => true
  | _ => false

end Ordered

namespace Scalar

def ofCodePoints (ns : List Nat) : Scalar :=
  if ns.any isSurrogate then codePoints ns else text (String.ofList (ns.map Char.ofNat))

def ordered? : Scalar → Option Ordered
  | text s => some (.text s)
  | codePoints ns => some (.codePoints ns)
  | int n => some (.int n)
  | float x => some (.float x)
  | bool b => some (.int b.toInt)
  | null => none

def isWritable : Scalar → Bool
  | int n => isWritableInteger n
  | _ => true

/-- Equality of values, which tells neither truth values from numbers nor integers from equal
floating point numbers. -/
def same (a b : Scalar) : Bool :=
  match a.ordered?, b.ordered? with
  | some x, some y => x.same y
  | none, none => true
  | _, _ => false

/-- Values that are one and the same, or equal. Only what equals nothing, not even itself, makes a
difference to `same`. -/
def alike (a b : Scalar) : Bool := a == b || a.same b

def comparable (a b : Scalar) : Bool :=
  match a.ordered?, b.ordered? with
  | some x, some y => x.isText == y.isText
  | _, _ => false

def lt (a b : Scalar) : Bool :=
  match a.ordered?, b.ordered? with
  | some x, some y => x.lt y
  | _, _ => false

/-- The number of an integer or of a truth value. -/
def integer? : Scalar → Option Int
  | int n => some n
  | bool b => some b.toInt
  | _ => none

/-- Values that count as present: not empty, not zero, not false and not null. -/
def isSet : Scalar → Bool
  | text s => s ≠ ""
  | codePoints _ => true
  | int n => n ≠ 0
  | float x => !x.same (.finite false 0)
  | bool b => b
  | null => false

/-- A value that is no number, although it is of their type. -/
def isNan : Scalar → Bool
  | float x => x.isNan
  | _ => false

/-- Plain text of a value, in which the replacement character stands for each surrogate. -/
def plain : Scalar → String
  | text s => s
  | codePoints ns => String.ofList (ns.map standIn)
  | int n => toString n
  | float x => x.text
  | bool true => "True"
  | bool false => "False"
  | null => "None"

def shown : Scalar → String
  | text s => shownText s
  | codePoints ns => shownPoints ns
  | v => v.plain

/-- Text of a value in lower case truth values, as terms and filter expressions write it. -/
def formatted : Scalar → String
  | bool true => "true"
  | bool false => "false"
  | v => v.plain

def typeName : Scalar → String
  | text _ | codePoints _ => "str"
  | int _ => "int"
  | float _ => "float"
  | bool _ => "bool"
  | null => "NoneType"

/-- The code points of a text, of which other values have none. -/
def points : Scalar → List Nat
  | text s => s.toList.map Char.toNat
  | codePoints ns => ns
  | _ => []

theorem alike_self (a : Scalar) : a.alike a = true := by simp [alike]

theorem same_text (s t : String) : (text s).same (text t) = (s == t) := rfl

theorem comparable_text (s t : String) : (text s).comparable (text t) = true := rfl

theorem formatted_text (s : String) : (text s).formatted = s := rfl

end Scalar

end TripleIndex
