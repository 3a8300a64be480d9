/-!
Binary64 numbers. A finite one is kept as its magnitude in units of `2 ^ -1074`, the distance from
zero to its neighbour, so that the order and the equality of two numbers are those of integers. What
is no number has a payload, which plays no part in arithmetic and comparisons; it only tells one such
value from another, and those that are read or computed have the payload zero. Every number that is
made here is rounded to the nearest one of the format, a tie to the one with the even significand.
-/

namespace TripleIndex

inductive Double where
  | nan (payload : Nat)
  | infinite (negative : Bool)
  | finite (negative : Bool) (units : Nat)
  deriving DecidableEq, Repr, Inhabited

namespace Double

def precision : Nat := 53

def unitsOfOne : Nat := Nat.pow 2 1074

theorem unitsOfOne_pos : 0 < unitsOfOne := by decide +kernel

/-- The first magnitude that is too large to be finite. -/
def overflow : Nat := Nat.pow 2 (1024 + 1074)

/-- The quotient rounded to the nearest natural number, a tie to the even one. -/
def nearestEven (num den : Nat) : Nat :=
  let q := num / den
  let twice := 2 * (num % den)
  if twice < den then q
  else if den < twice then q + 1
  else q + q % 2

/-- How many bits a magnitude has beyond those of a significand. -/
def excess (units : Nat) : Nat := Nat.log2 units + 1 - precision

def ofUnits (negative : Bool) (num den : Nat) : Double :=
  let step := Nat.pow 2 (excess (num / den))
  let units := nearestEven num (den * step) * step
  if overflow ≤ units then infinite negative else finite negative units

/-- The number nearest to the quotient of two natural numbers. -/
def ofRatio (negative : Bool) (num den : Nat) : Double := ofUnits negative (num * unitsOfOne) den

/-- The number nearest to `digits * 10 ^ exponent`, where `digits` has `count` decimal digits.
Exponents beyond the range of the format are settled by their size alone. -/
def ofDecimal (negative : Bool) (digits count : Nat) (exponent : Int) : Double :=
  if digits = 0 then finite negative 0
  else if 400 < exponent + count then infinite negative
  else if exponent + count < -400 then finite negative 0
  else if 0 ≤ exponent then ofRatio negative (digits * Nat.pow 10 exponent.toNat) 1
  else ofRatio negative digits (Nat.pow 10 (-exponent).toNat)

/-- The nearest number, or nothing when only an infinity is near. -/
def ofInt? (n : Int) : Option Double :=
  match ofRatio (n < 0) n.natAbs 1 with
  | infinite _ => none
  | x => some x

/-- The signed magnitude in units, of a finite number. -/
def signedUnits : Bool → Nat → Int
  | true, units => -units
  | false, units => units

def isNan : Double → Bool
  | nan _ => true
  | _ => false

/-- Both zeros are equal and `nan` equals nothing. -/
def same : Double → Double → Bool
  | finite m a, finite n b => signedUnits m a == signedUnits n b
  | infinite m, infinite n => m == n
  | _, _ => false

def lt : Double → Double → Bool
  | finite m a, finite n b => signedUnits m a < signedUnits n b
  | finite _ _, infinite n => !n
  | infinite m, finite _ _ => m
  | infinite m, infinite n => m && !n
  | _, _ => false

/-- An integer lies below a number. The comparison is exact. -/
def intLt (n : Int) : Double → Bool
  | finite m a => n * unitsOfOne < signedUnits m a
  | infinite m => !m
  | nan _ => false

def ltInt (x : Double) (n : Int) : Bool :=
  match x with
  | finite m a => signedUnits m a < n * unitsOfOne
  | infinite m => m
  | nan _ => false

def sameInt (x : Double) (n : Int) : Bool :=
  match x with
  | finite m a => signedUnits m a == n * unitsOfOne
  | _ => false

/-- The integer between zero and a finite number that is nearest to the number. -/
def truncate (negative : Bool) (units : Nat) : Int := signedUnits negative (units / unitsOfOne)

def neg : Double → Double
  | nan p => nan p
  | infinite m => infinite !m
  | finite m a => finite (!m) a

def add : Double → Double → Double
  | nan _, _ | _, nan _ => nan 0
  | infinite m, infinite n => if m = n then infinite m else nan 0
  | infinite m, _ => infinite m
  | _, infinite n => infinite n
  | finite m a, finite n b =>
    let total := signedUnits m a + signedUnits n b
    if total = 0 then finite (m && n) 0 else ofUnits (total < 0) total.natAbs 1

def sub (x y : Double) : Double := x.add y.neg

def mul : Double → Double → Double
  | nan _, _ | _, nan _ => nan 0
  | infinite m, infinite n => infinite (m != n)
  | infinite m, finite n b => if b = 0 then nan 0 else infinite (m != n)
  | finite m a, infinite n => if a = 0 then nan 0 else infinite (m != n)
  | finite m a, finite n b => ofUnits (m != n) (a * b) unitsOfOne

theorem same_comm (x y : Double) : x.same y = y.same x := by
  cases x <;> cases y <;> simp [same, Bool.beq_comm]

theorem same_self {x : Double} (h : x.isNan = false) : x.same x = true := by
  cases x <;> simp_all [same, isNan]

theorem lt_irrefl (x : Double) : x.lt x = false := by
  cases x <;> simp [lt]

theorem lt_trans {x y z : Double} (hxy : x.lt y = true) (hyz : y.lt z = true) :
    x.lt z = true := by
  cases x <;> cases y <;> cases z <;> simp_all [lt]
  omega

/-- Of two numbers that are not `nan` one lies below the other, or they are equal. -/
theorem lt_or_same_or_lt {x y : Double} (hx : x.isNan = false) (hy : y.isNan = false) :
    x.lt y = true ∨ x.same y = true ∨ y.lt x = true := by
  cases x <;> cases y <;> simp_all [lt, same, isNan]
  · next m n => revert m n; decide
  · omega

end Double

end TripleIndex
