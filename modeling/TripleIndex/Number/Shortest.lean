import TripleIndex.Number.Double

/-!
The shortest decimal text of a binary64 number: the fewest significant digits that read back as the
number, and of those the digits nearest to it. The search tries one grid of decimals after the
other, from one digit to seventeen, and compares exactly.
-/

namespace TripleIndex

namespace Double

/-- A finite magnitude is `units / quarter`, and the numbers that round to it lie between `low` and
`high`, all in quarters of a unit. The ends belong to it when `closed` holds. -/
structure Neighbourhood where
  value : Nat
  low : Nat
  high : Nat
  closed : Bool

def quartersOfOne : Nat := 4 * unitsOfOne

def neighbourhood (units : Nat) : Neighbourhood :=
  let step := Nat.pow 2 (excess units)
  let below := if units = Nat.pow 2 (Nat.log2 units) && 1 < step then step else 2 * step
  { value := 4 * units, low := 4 * units - below, high := 4 * units + 2 * step,
    closed := units / step % 2 = 0 }

/-- `digits * 10 ^ exponent` rounds to the magnitude. -/
def Neighbourhood.holds (n : Neighbourhood) (digits : Nat) (exponent : Int) : Bool :=
  let point := quartersOfOne * digits * Nat.pow 10 exponent.toNat
  let scale := Nat.pow 10 (-exponent).toNat
  let low := n.low * scale
  let high := n.high * scale
  low < point && point < high || n.closed && (point == low || point == high)

/-- The place of the first significant digit: `10 ^ leading ≤ value < 10 ^ (leading + 1)`. -/
def Neighbourhood.leading (n : Neighbourhood) : Int :=
  let guess := (Nat.log2 n.value - Nat.log2 quartersOfOne : Int) * 1233 / 4096
  go 3 (guess + 2)
where
  go : Nat → Int → Int
    | 0, e => e
    | fuel + 1, e =>
      if quartersOfOne * Nat.pow 10 e.toNat ≤ n.value * Nat.pow 10 (-e).toNat then e else go fuel (e - 1)

/-- The digits that a grid of decimals `10 ^ exponent` apart has for the magnitude: the nearer of
the two neighbours on the grid that round to it. -/
def Neighbourhood.onGrid? (n : Neighbourhood) (exponent : Int) : Option Nat :=
  let num := n.value * Nat.pow 10 (-exponent).toNat
  let den := quartersOfOne * Nat.pow 10 exponent.toNat
  let down := num / den
  let nearest := nearestEven num den
  let other := if nearest = down then down + 1 else down
  if n.holds nearest exponent then some nearest
  else if n.holds other exponent then some other
  else none

/-- The first grid with an answer, given how many digits it may have at most. -/
def Neighbourhood.shortest (n : Neighbourhood) (leading : Int) : Nat → Nat → Nat × Int
  | 0, count => ((n.onGrid? (leading - count)).getD 0, leading - count)
  | left + 1, count =>
    match n.onGrid? (leading - count) with
    | some digits => (digits, leading - count)
    | none => n.shortest leading left (count + 1)

/-- How the digits of a number are laid out. -/
structure DecimalLayout where
  /-- The smallest place of the first digit that is written without an exponent. -/
  leastPositional : Int
  /-- The place from which on an exponent is written. -/
  leastScientific : Int
  /-- The least number of digits of an exponent. -/
  exponentDigits : Nat

/-- Positional from `0.0001` to below `1e16`, an exponent with its sign and at least two digits
otherwise. -/
def layout : DecimalLayout := ⟨-4, 16, 2⟩

def padLeft (width : Nat) (cs : List Char) : List Char :=
  List.replicate (width - cs.length) '0' ++ cs

def significant (digits : List Char) : List Char :=
  digits.foldr (fun c rest => if rest.isEmpty && c == '0' then [] else c :: rest) []

/-- Write significant digits, the first of which stands at the place `leading`. -/
def DecimalLayout.write (l : DecimalLayout) (digits : List Char) (leading : Int) : List Char :=
  if leading < l.leastPositional || l.leastScientific ≤ leading then
    let mantissa := match digits with
      | [] => []
      | [d] => [d]
      | d :: rest => d :: '.' :: rest
    mantissa ++ 'e' :: (if leading < 0 then '-' else '+') ::
      padLeft l.exponentDigits (Nat.toDigits 10 leading.natAbs)
  else if leading < 0 then
    '0' :: '.' :: List.replicate (leading.natAbs - 1) '0' ++ digits
  else
    let count := leading.toNat + 1
    let whole := digits.take count ++ List.replicate (count - digits.length) '0'
    let rest := digits.drop count
    whole ++ '.' :: (if rest.isEmpty then ['0'] else rest)

/-- The fewest significant digits of a magnitude, and the place of the first one. -/
def fewestDigits (units : Nat) : List Char × Int :=
  let n := neighbourhood units
  let (digits, exponent) := n.shortest n.leading 16 0
  let text := Nat.toDigits 10 digits
  (significant text, exponent + text.length - 1)

def magnitudeText (units : Nat) : List Char :=
  if units = 0 then ['0', '.', '0']
  else let (digits, leading) := fewestDigits units; layout.write digits leading

def signText (negative : Bool) : List Char := if negative then ['-'] else []

/-- The shortest text that reads back as the number. -/
def text : Double → String
  | nan _ => "nan"
  | infinite m => String.ofList (signText m ++ ['i', 'n', 'f'])
  | finite m units => String.ofList (signText m ++ magnitudeText units)

end Double

end TripleIndex
