/-!
Integers in texts. A text holds an integer of at most 4300 decimal digits: a longer one is neither read
nor written.
-/

namespace TripleIndex

/-- The most digits of an integer in a text. -/
def maxIntegerDigits : Nat := 4300

/-- The first magnitude with more digits than a text holds. -/
def firstUnwritten : Nat := Nat.pow 10 maxIntegerDigits

def isWritableInteger (n : Int) : Bool := n.natAbs < firstUnwritten

theorem isWritableInteger_neg (n : Int) : isWritableInteger (-n) = isWritableInteger n := by
  simp [isWritableInteger]

end TripleIndex
