import TripleIndex.Number.Double
import TripleIndex.Number.Written
import TripleIndex.Text.Blank
import TripleIndex.Text.Digit

/-!
Numbers read from text. Digits of every script count, a single underscore may stand between two of
them, and white space around a number is left out.
-/

namespace TripleIndex

def startsWithDigit : List Char → Bool
  | [] => false
  | c :: _ => isDecimalDigit c

/-- Digits at the front of a text, an underscore between two digits being passed over, with the
text that follows. The flag says that a digit stands right before the text. -/
def digitRun : Bool → List Char → List Nat × List Char
  | _, [] => ([], [])
  | afterDigit, c :: rest =>
    match digit? c with
    | some d => let (ds, after) := digitRun true rest; (d :: ds, after)
    | none =>
      if c = '_' && afterDigit && startsWithDigit rest then digitRun false rest
      else ([], c :: rest)

/-- An optional sign at the front: whether it is a minus, and what follows. -/
def readSign : List Char → Bool × List Char
  | '-' :: rest => (true, rest)
  | '+' :: rest => (false, rest)
  | cs => (false, cs)

/-- Why a text is no integer. -/
inductive IntegerFault where
  | malformed
  | tooManyDigits (count : Nat)
  deriving DecidableEq, Repr

def readInteger (s : String) : Except IntegerFault Int :=
  let (negative, body) := readSign (trimNumber s.toList)
  let (ds, after) := digitRun false body
  if ds.isEmpty || after.head? = some '_' then .error .malformed
  else if maxIntegerDigits < ds.length then .error (.tooManyDigits ds.length)
  else if !after.isEmpty then .error .malformed
  else .ok (if negative then -(ofDigits ds : Int) else ofDigits ds)

/-- The exponent of a decimal: nothing, or the letter with a sign and at least one digit. -/
def readExponent? : List Char → Option Int
  | [] => some 0
  | c :: rest =>
    if c = 'e' || c = 'E' then
      let (negative, body) := readSign rest
      let (ds, after) := digitRun false body
      if ds.isEmpty || !after.isEmpty then none
      else some (if negative then -(ofDigits ds : Int) else ofDigits ds)
    else none

/-- The digits after a point. An underscore next to the point is refused with the rest. -/
def readFraction : List Char → List Nat × List Char
  | '.' :: rest => digitRun false rest
  | cs => ([], cs)

def readMagnitude? (negative : Bool) (cs : List Char) : Option Double :=
  let (whole, afterWhole) := digitRun false cs
  let (fraction, afterFraction) := readFraction afterWhole
  let ds := whole ++ fraction
  if ds.isEmpty then none
  else
    (readExponent? afterFraction).map fun e =>
      let n := ofDigits ds
      Double.ofDecimal negative n (Nat.toDigits 10 n).length (e - fraction.length)

def readDouble? (s : String) : Option Double :=
  let (negative, body) := readSign (trimNumber s.toList)
  let word := lowerAscii body
  if word = ['i', 'n', 'f'] || word = ['i', 'n', 'f', 'i', 'n', 'i', 't', 'y'] then
    some (.infinite negative)
  else if word = ['n', 'a', 'n'] then some (.nan 0)
  else readMagnitude? negative body

end TripleIndex
