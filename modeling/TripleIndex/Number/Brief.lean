import TripleIndex.Number.Shortest

/-!
Brief texts of binary64 numbers. An integer below 999999 has one zero after the point. Any other number
has its fewest digits if they take nine characters at most, an integer among them with an exponent. What
is longer is rounded: to six places after the point, or to five digits with an exponent where the number
is too large or too small for that.
-/

namespace TripleIndex

namespace Double

/-- A magnitude rounded to a number of places after the point, which is not zero. -/
def fixedText (places units : Nat) : List Char :=
  let digits := padLeft (places + 1) (Nat.toDigits 10 (nearestEven (units * Nat.pow 10 places) unitsOfOne))
  digits.take (digits.length - places) ++ '.' :: digits.drop (digits.length - places)

/-- Zeros at the end are left out, all but one right after the point. -/
def dropZeros (cs : List Char) : List Char :=
  let kept := significant cs
  if kept.getLast? = some '.' then kept ++ ['0'] else kept

def withExponent (digits : List Char) (leading : Int) : List Char :=
  let mantissa := match digits with
    | d :: e :: rest => d :: '.' :: e :: rest
    | ds => ds
  mantissa ++ 'e' :: (toString leading).toList

/-- The first five digits of a magnitude that is not zero, rounded, and the place of the first one. -/
def fiveDigits (units : Nat) : Nat × Int :=
  let leading := (neighbourhood units).leading
  let num := units * Nat.pow 10 (4 - leading).toNat
  let den := unitsOfOne * Nat.pow 10 (leading - 4).toNat
  let digits := nearestEven num den
  if digits = 100000 then (10000, leading + 1) else (digits, leading)

/-- Every number written without an exponent. -/
def positional : DecimalLayout := ⟨-400, 400, 0⟩

/-- The least magnitude that six places after the point can show. -/
def millionth : Nat := nearestEven unitsOfOne (Nat.pow 10 6)

/-- From here on an integer is written with an exponent, and beyond it every number that is long. -/
def exponentBound : Nat := 999999 * unitsOfOne

def briefMagnitude (negative : Bool) (units : Nat) : List Char :=
  let whole := units % unitsOfOne = 0
  if whole && units < exponentBound then Nat.toDigits 10 (units / unitsOfOne) ++ ['.', '0']
  else
    let (digits, leading) := fewestDigits units
    let plain := positional.write digits leading
    let length := plain.length - (if whole then 2 else 0) + (if negative then 1 else 0)
    if length ≤ 9 then if whole then withExponent digits leading else plain
    else if units < millionth || exponentBound < units then
      let (five, place) := fiveDigits units
      withExponent (Nat.toDigits 10 five) place
    else dropZeros (fixedText 6 units)

def brief : Double → String
  | nan _ => "NaN"
  | infinite m => String.ofList (signText m ++ ['i', 'n', 'f'])
  | finite m units => String.ofList (signText m ++ briefMagnitude m units)

end Double

end TripleIndex
