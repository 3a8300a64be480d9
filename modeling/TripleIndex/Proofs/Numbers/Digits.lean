import Mathlib.Algebra.Group.Nat.Defs
import TripleIndex.Number.Read
import TripleIndex.Proofs.Trimming
import TripleIndex.Term.Read

/-!
Digits of ASCII, read back. A run of them ends at the first character that neither is a digit nor stands
between two, and what is written in decimal has the value of its digits.
-/

namespace TripleIndex

variable {c : Char} {cs rest : List Char}

theorem digit?_of_isDigit (h : c.isDigit = true) : digit? c = some (c.toNat - 48) := by
  have hle : c.toNat ≤ 57 := by
    simp only [Char.isDigit, Bool.and_eq_true, decide_eq_true_eq] at h
    exact h.2
  have hascii : c.toNat < 0x80 := by omega
  rw [digit?, if_pos hascii, if_pos h]

/-- A text that does not go on with a run of digits. -/
def EndsDigits (rest : List Char) : Prop := ∀ c, rest.head? = some c → digit? c = none ∧ c ≠ '_'

theorem endsDigits_nil : EndsDigits [] := by
  intro c h
  cases h

theorem endsDigits_cons (hdigit : digit? c = none) (hscore : c ≠ '_') : EndsDigits (c :: rest) := by
  intro d h
  cases h
  exact ⟨hdigit, hscore⟩

theorem EndsDigits.digitRun_eq (h : EndsDigits rest) (afterDigit : Bool) :
    digitRun afterDigit rest = ([], rest) := by
  cases rest with
  | nil => rfl
  | cons c rest =>
    obtain ⟨hdigit, hscore⟩ := h c rfl
    simp only [digitRun, hdigit, hscore, decide_false, Bool.false_and, Bool.false_eq_true, if_false]

def digitValues (cs : List Char) : List Nat := cs.map fun c => c.toNat - 48

theorem digitRun_append (hdigits : ∀ c ∈ cs, c.isDigit = true) (h : EndsDigits rest) (afterDigit : Bool) :
    digitRun afterDigit (cs ++ rest) = (digitValues cs, rest) := by
  induction cs generalizing afterDigit with
  | nil => exact h.digitRun_eq afterDigit
  | cons c cs ih =>
    have hc := digit?_of_isDigit (hdigits c List.mem_cons_self)
    rw [List.cons_append, digitRun]
    simp only [hc, ih fun d hd => hdigits d (List.mem_cons_of_mem c hd)]
    rfl

theorem digitRun_all (hdigits : ∀ c ∈ cs, c.isDigit = true) (afterDigit : Bool) :
    digitRun afterDigit cs = (digitValues cs, []) := by
  have := digitRun_append hdigits endsDigits_nil afterDigit
  rwa [List.append_nil] at this

theorem ofDigits_digitValues (cs : List Char) : ofDigits (digitValues cs) = Nat.ofDigitChars 10 cs 0 := by
  rw [ofDigits, digitValues, List.foldl_map]
  rfl

theorem digitValues_append (cs ds : List Char) : digitValues (cs ++ ds) = digitValues cs ++ digitValues ds :=
  List.map_append

theorem isEmpty_digitValues (cs : List Char) : (digitValues cs).isEmpty = cs.isEmpty := List.isEmpty_map

theorem ofDigits_toDigits (n : Nat) : ofDigits (digitValues (Nat.toDigits 10 n)) = n := by
  rw [ofDigits_digitValues, Nat.ofDigitChars_ten_toDigits]

theorem isDigit_toDigits {n : Nat} (h : c ∈ Nat.toDigits 10 n) : c.isDigit = true :=
  Nat.isDigit_of_mem_toDigits (by decide) (by decide) h

theorem isBlankAroundNumber_of_isDigit (h : c.isDigit = true) : isBlankAroundNumber c = false := by
  simp only [Char.isDigit, Bool.and_eq_true, decide_eq_true_eq] at h
  have hlow : 48 ≤ c.toNat := h.1
  have hhigh : c.toNat ≤ 57 := h.2
  simp only [isBlankAroundNumber, Bool.or_eq_false_iff, Bool.and_eq_false_iff, decide_eq_false_iff_not,
    beq_eq_false_iff_ne]
  omega

/-! ## Integers -/

theorem readSign_of_isDigit (h : ∀ c ∈ cs, c.isDigit = true) : readSign cs = (false, cs) := by
  unfold readSign
  split
  · exact absurd (h '-' List.mem_cons_self) (by decide)
  · exact absurd (h '+' List.mem_cons_self) (by decide)
  · rfl

theorem toList_toString (n : Int) : (toString n).toList =
    (if n < 0 then ['-'] else []) ++ Nat.toDigits 10 n.natAbs := by
  cases n with
  | ofNat n =>
    have hpos : ¬ Int.ofNat n < 0 := by simp
    rw [if_neg hpos, List.nil_append]
    exact Nat.toList_repr
  | negSucc n =>
    rw [if_pos (Int.negSucc_lt_zero n)]
    show ("-" ++ Nat.repr (n + 1)).toList = _
    rw [String.toList_append, Nat.toList_repr]
    rfl

theorem isWritableInteger_iff {n : Int} : isWritableInteger n = true ↔ n.natAbs < 10 ^ maxIntegerDigits := by
  have hfirst : firstUnwritten = 10 ^ maxIntegerDigits := by
    unfold firstUnwritten
    generalize maxIntegerDigits = most
    rfl
  rw [← hfirst, isWritableInteger]
  generalize firstUnwritten = first
  exact decide_eq_true_iff

theorem length_toDigits_le {n : Int} (h : isWritableInteger n = true) :
    (Nat.toDigits 10 n.natAbs).length ≤ maxIntegerDigits := by
  have hpos : 0 < maxIntegerDigits := by decide
  have h := isWritableInteger_iff.1 h
  generalize maxIntegerDigits = most at *
  exact (Nat.length_toDigits_le_iff (by decide) hpos).2 h

theorem isBlankAroundNumber_toString (n : Int) : ∀ c ∈ (toString n).toList, isBlankAroundNumber c = false := by
  intro c hc
  rw [toList_toString] at hc
  rcases List.mem_append.1 hc with hsign | hdigit
  · split at hsign
    · rw [List.mem_singleton.1 hsign]
      decide
    · cases hsign
  · exact isBlankAroundNumber_of_isDigit (isDigit_toDigits hdigit)

theorem readInteger_toString {n : Int} (h : isWritableInteger n = true) : readInteger (toString n) = .ok n := by
  have hdigits : ∀ c ∈ Nat.toDigits 10 n.natAbs, c.isDigit = true := fun c => isDigit_toDigits
  have htrim : trimNumber (toString n).toList = (toString n).toList :=
    trimWhere_of_forall (isBlankAroundNumber_toString n)
  have hsign : readSign (toString n).toList = (decide (n < 0), Nat.toDigits 10 n.natAbs) := by
    rw [toList_toString]
    by_cases hneg : n < 0
    · rw [if_pos hneg, decide_eq_true hneg]
      rfl
    · rw [if_neg hneg, decide_eq_false hneg]
      exact readSign_of_isDigit hdigits
  have hfew : ¬ maxIntegerDigits < (digitValues (Nat.toDigits 10 n.natAbs)).length := by
    rw [digitValues, List.length_map]
    exact Nat.not_lt.2 (length_toDigits_le h)
  have hsome : (digitValues (Nat.toDigits 10 n.natAbs)).isEmpty = false := by
    rw [isEmpty_digitValues, List.isEmpty_eq_false_iff]
    exact Nat.toDigits_ne_nil
  unfold readInteger
  rw [htrim, hsign]
  clear h
  generalize maxIntegerDigits = most at *
  simp only [digitRun_all hdigits, hsome, ofDigits_toDigits, if_neg hfew, List.head?_nil, List.isEmpty_nil,
    decide_false, reduceCtorEq, Bool.or_self, Bool.false_eq_true, Bool.not_true, if_false, decide_eq_true_eq]
  congr 1
  split <;> omega

theorem integerOf_toString {n : Int} (h : isWritableInteger n = true) : integerOf (toString n) = .ok n := by
  rw [integerOf, readInteger_toString h]

end TripleIndex
