import TripleIndex.Text.Printable
import TripleIndex.Text.Surrogate

/-!
Text shown in messages: between single quotes, or between double quotes when it holds a single
quote and no double one. A backslash, the closing quote and the three usual control characters are
written with a backslash, and what is not printable, a surrogate for instance, by its code point in
hexadecimal.
-/

namespace TripleIndex

def hexDigit (n : Nat) : Char := Char.ofNat (if n < 10 then 0x30 + n else 0x57 + n)

/-- The last `width` hexadecimal digits of a number. -/
def hexText : Nat → Nat → List Char
  | 0, _ => []
  | width + 1, n => hexText width (n / 16) ++ [hexDigit (n % 16)]

def shownChar (quote c : Char) : List Char :=
  if c = '\\' || c = quote then ['\\', c]
  else if c = '\n' then ['\\', 'n']
  else if c = '\r' then ['\\', 'r']
  else if c = '\t' then ['\\', 't']
  else if isPrintable c then [c]
  else if c.toNat ≤ 0xFF then '\\' :: 'x' :: hexText 2 c.toNat
  else if c.toNat ≤ 0xFFFF then '\\' :: 'u' :: hexText 4 c.toNat
  else '\\' :: 'U' :: hexText 8 c.toNat

def shownQuote (cs : List Char) : Char :=
  if cs.contains '\'' && !cs.contains '"' then '"' else '\''

def shownText (s : String) : String :=
  let quote := shownQuote s.toList
  String.ofList (quote :: s.toList.flatMap (shownChar quote) ++ [quote])

def shownPoint (quote : Char) (n : Nat) : List Char :=
  if isSurrogate n then '\\' :: 'u' :: hexText 4 n else shownChar quote (Char.ofNat n)

def shownPoints (ns : List Nat) : String :=
  let quote := shownQuote (ns.map standIn)
  String.ofList (quote :: ns.flatMap (shownPoint quote) ++ [quote])

end TripleIndex
