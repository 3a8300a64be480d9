import TripleIndex.Text.Replace

/-!
Names that end in a number. A numeral has no more zeros in front than its width asks for, so each
number has one name. The unified ideographs are apart: their names end in four or five hexadecimal
digits, whatever these begin with, and are known in capitals only.
-/

namespace TripleIndex

/-- Value of a digit or capital letter as a digit of a base. -/
def digitOfBase? (base : Nat) (c : Char) : Option Nat :=
  let value? :=
    if '0' ≤ c && c ≤ '9' then some (c.toNat - '0'.toNat)
    else if 'A' ≤ c && c ≤ 'Z' then some (c.toNat - 'A'.toNat + 10)
    else none
  value?.filter (· < base)

def numeral? (base : Nat) (cs : List Char) : Option Nat :=
  cs.foldlM (fun n c => (digitOfBase? base c).map (base * n + ·)) 0

/-- Names made of a stem and the numbers from `low` to `high`, with at least `width` digits. The
character of `low` is at `first`, and the others follow. -/
structure NumberedNames where
  stem : String
  base : Nat
  width : Nat
  low : Nat
  high : Nat
  first : Nat
  deriving Repr

def NumberedNames.find? (f : NumberedNames) (name : List Char) : Option Nat := do
  let digits ← afterLead? f.stem.toList name
  let n ← numeral? f.base digits
  guard (f.width ≤ digits.length && (digits.length = f.width || digits.head? ≠ some '0'))
  guard (f.low ≤ n && n ≤ f.high)
  return f.first + (n - f.low)

def numberedNames : List NumberedNames := [
  ⟨"CJK COMPATIBILITY IDEOGRAPH-", 16, 4, 0xF900, 0xFA6D, 0xF900⟩,
  ⟨"CJK COMPATIBILITY IDEOGRAPH-", 16, 4, 0xFA70, 0xFAD9, 0xFA70⟩,
  ⟨"CJK COMPATIBILITY IDEOGRAPH-", 16, 4, 0x2F800, 0x2FA1D, 0x2F800⟩,
  ⟨"TANGUT COMPONENT-", 10, 3, 1, 768, 0x18800⟩,
  ⟨"KHITAN SMALL SCRIPT CHARACTER-", 16, 4, 0x18B00, 0x18CD5, 0x18B00⟩,
  ⟨"NUSHU CHARACTER-", 16, 4, 0x1B170, 0x1B2FB, 0x1B170⟩,
  ⟨"VARIATION SELECTOR-", 10, 1, 1, 16, 0xFE00⟩,
  ⟨"VARIATION SELECTOR-", 10, 1, 17, 256, 0xE0100⟩,
  ⟨"VS", 10, 1, 1, 16, 0xFE00⟩,
  ⟨"VS", 10, 1, 17, 256, 0xE0100⟩]

/-- Ranges of the unified ideographs. -/
def ideographRanges : List (Nat × Nat) := [
  (0x3400, 0x4DBF), (0x4E00, 0x9FFF), (0x20000, 0x2A6DF), (0x2A700, 0x2B738), (0x2B740, 0x2B81D),
  (0x2B820, 0x2CEA1), (0x2CEB0, 0x2EBE0), (0x30000, 0x3134A)]

def ideograph? (name : List Char) : Option Nat := do
  let digits ← afterLead? "CJK UNIFIED IDEOGRAPH-".toList name
  let n ← numeral? 16 digits
  guard (digits.length = 4 || digits.length = 5)
  guard (ideographRanges.any fun (low, high) => low ≤ n && n ≤ high)
  return n

end TripleIndex
