import TripleIndex.Codec
import TripleIndex.Proofs.Numbers.Rounding
import TripleIndex.Proofs.Outcome
import TripleIndex.Proofs.Trimming

/-!
Shapes of numbers. The lexical form of a number that its codec takes is made of digits, signs, points,
exponents and the capitals of an infinity, so that its value is a number of the format.
-/

namespace TripleIndex

variable {cs : List Char} {c : Char}

/-- Digits of any script, and what else stands in the lexical forms of numbers. -/
def isNumberChar (c : Char) : Bool := isDecimalDigit c || "+-.eEINF".toList.contains c

theorem append_of_splitFirst? {mark : Char} {before after : List Char}
    (h : splitFirst? mark cs = some (before, after)) : cs = before ++ mark :: after := by
  induction cs generalizing before with
  | nil => cases h
  | cons c cs ih =>
    rw [splitFirst?] at h
    split at h
    · next hc =>
      cases h
      rw [hc, List.nil_append]
    · obtain ⟨⟨b, a⟩, hsplit, heq⟩ := Option.map_eq_some_iff.1 h
      cases heq
      rw [ih hsplit, List.cons_append]

theorem isNumberChar_of_digits (h : cs.all isDecimalDigit = true) : ∀ c ∈ cs, isNumberChar c = true := by
  intro c hc
  rw [isNumberChar, List.all_eq_true.1 h c hc, Bool.true_or]

theorem isNumberChar_of_areDigits (h : areDigits cs = true) : ∀ c ∈ cs, isNumberChar c = true :=
  isNumberChar_of_digits (Bool.and_eq_true_iff.1 h).2

theorem isNumberChar_of_isUnsignedDecimal (h : isUnsignedDecimal cs = true) :
    ∀ c ∈ cs, isNumberChar c = true := by
  unfold isUnsignedDecimal at h
  split at h
  · exact isNumberChar_of_areDigits h
  · next whole fraction hsplit =>
    obtain ⟨hdigits, -⟩ := Bool.and_eq_true_iff.1 h
    obtain ⟨hwhole, hfraction⟩ := Bool.and_eq_true_iff.1 hdigits
    rw [append_of_splitFirst? hsplit, List.forall_mem_append]
    exact ⟨isNumberChar_of_digits hwhole, List.forall_mem_cons.2 ⟨by decide, isNumberChar_of_digits hfraction⟩⟩

theorem isNumberChar_of_dropSign (h : ∀ c ∈ dropSign cs, isNumberChar c = true) :
    ∀ c ∈ cs, isNumberChar c = true := by
  unfold dropSign at h
  split at h
  · exact List.forall_mem_cons.2 ⟨by decide, h⟩
  · exact List.forall_mem_cons.2 ⟨by decide, h⟩
  · exact h

theorem isNumberChar_of_isDoubleShape (h : isDoubleShape cs = true) : ∀ c ∈ cs, isNumberChar c = true := by
  refine isNumberChar_of_dropSign ?_
  unfold isDoubleShape at h
  dsimp only at h
  split at h
  · rcases Bool.or_eq_true_iff.1 h with h | h
    · exact isNumberChar_of_isUnsignedDecimal h
    · rw [of_decide_eq_true h]
      exact List.all_eq_true.1 (by decide)
  · next e exponent hsplit =>
    obtain ⟨hmantissa, hexponent⟩ := Bool.and_eq_true_iff.1 h
    have hletter : isExponentLetter e = true := by
      have := List.head?_dropWhile_not (fun c => !isExponentLetter c) (dropSign cs)
      rw [hsplit] at this
      simpa using this
    have he : isNumberChar e = true := by
      simp only [isExponentLetter, Bool.or_eq_true, decide_eq_true_eq] at hletter
      rcases hletter with rfl | rfl <;> decide
    have hbody := List.takeWhile_append_dropWhile (p := fun c => !isExponentLetter c) (l := dropSign cs)
    rw [hsplit] at hbody
    rw [← hbody, List.forall_mem_append]
    refine ⟨isNumberChar_of_isUnsignedDecimal hmantissa, List.forall_mem_cons.2 ⟨he, ?_⟩⟩
    exact isNumberChar_of_dropSign (isNumberChar_of_areDigits hexponent)

/-! ## Values -/

theorem isNan_ofDecimal (negative : Bool) (digits count : Nat) (exponent : Int) :
    (Double.ofDecimal negative digits count exponent).isNan = false := by
  have hround : ∀ num den, (Double.ofUnits negative num den).isNan = false := by
    intro num den
    rw [Double.ofUnits_eq]
    split <;> rfl
  unfold Double.ofDecimal
  split
  · rfl
  split
  · rfl
  split
  · rfl
  split
  · exact hround ..
  · exact hround ..

theorem eq_of_toLower_eq (h : c.toLower = 'a') : c = 'a' ∨ c = 'A' := by
  unfold Char.toLower at h
  split at h
  · have hval : c.val + ('a'.val - 'A'.val) = 'A'.val + ('a'.val - 'A'.val) := congrArg Char.val h
    exact .inr (Char.ext ((UInt32.add_left_inj _).1 hval))
  · exact .inl h

theorem mem_of_mem_readSign (h : c ∈ (readSign cs).2) : c ∈ cs := by
  unfold readSign at h
  split at h
  · exact List.mem_cons_of_mem _ h
  · exact List.mem_cons_of_mem _ h
  · exact h

theorem isNan_of_readDouble? {s : String} {x : Double} (h : readDouble? s = some x)
    (hs : ∀ c ∈ s.toList, isNumberChar c = true) : x.isNan = false := by
  unfold readDouble? at h
  cases hsign : readSign (trimNumber s.toList) with
  | mk negative body =>
    rw [hsign] at h
    dsimp only at h
    split at h
    · cases h
      rfl
    split at h
    · next hword =>
      have ha : 'a' ∈ lowerAscii body := by
        rw [hword]
        decide
      obtain ⟨c, hc, hlower⟩ := List.mem_map.1 ha
      have hbody : body = (readSign (trimNumber s.toList)).2 := by rw [hsign]
      have hshape := hs c (mem_of_mem_trimWhere (mem_of_mem_readSign (hbody ▸ hc)))
      rcases eq_of_toLower_eq hlower with rfl | rfl
      · exact absurd hshape (by decide)
      · exact absurd hshape (by decide)
    · unfold readMagnitude? at h
      dsimp only at h
      split at h
      · cases h
      · obtain ⟨e, -, rfl⟩ := Option.map_eq_some_iff.1 h
        exact isNan_ofDecimal ..

theorem isRounded_of_numericValue {lexical : String} {x : Double}
    (h : CodecFamily.numericValue lexical = .ok x) : x.IsRounded ∧ x.isNan = false := by
  unfold CodecFamily.numericValue at h
  dsimp only at h
  split at h
  · next hshape =>
    have hread : readDouble? (String.ofList (trim lexical.toList)) = some x := by
      unfold doubleOf at h
      split at h
      · cases h
        assumption
      · cases h
    refine ⟨Double.isRounded_of_readDouble? hread, isNan_of_readDouble? hread ?_⟩
    rw [String.toList_ofList]
    exact isNumberChar_of_isDoubleShape hshape
  · cases h

end TripleIndex
