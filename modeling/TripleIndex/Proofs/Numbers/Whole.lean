import TripleIndex.Proofs.Numbers.Shapes
import TripleIndex.Proofs.Numbers.Shortest

/-!
Integers as numbers of the format. An integer of at most `2 ^ 53` is a number of the format itself, and a
larger one is rounded to a number that is no smaller integer. So integers that are read as the same number are
the same unless both of them are that large.
-/

namespace TripleIndex

/-! ## Rounding -/

namespace Double

variable {negative : Bool} {units num n : Nat}

theorem ofUnits_of_isMagnitude (negative : Bool) (hunits : IsMagnitude units) (hpos : 0 < units) :
    ofUnits negative units 1 = finite negative units := by
  have hreach := reachBelow_pos units
  have hbelow := reachBelow_le units
  have hstep := stepOf_le hunits hpos
  refine ofUnits_of_near negative hunits hpos Nat.one_pos ⟨by omega, by omega, fun htie => ?_⟩
  have := stepOf_pos units
  omega

theorem exists_unitsOfOne_eq : ∃ k, unitsOfOne = 2 ^ k := by
  unfold unitsOfOne
  generalize 1074 = k
  exact ⟨k, rfl⟩

theorem isMagnitude_whole (hn : n ≤ 2 ^ 53) : IsMagnitude (n * unitsOfOne) where
  step_dvd := by
    obtain ⟨k, hk⟩ := exists_unitsOfOne_eq
    rw [hk]
    exact stepOf_dvd hn
  lt_overflow := (Nat.mul_le_mul_right unitsOfOne hn).trans_lt (by decide +kernel)

theorem two_pow_excess_le (h : 2 ^ 53 ≤ num) : 2 ^ 52 * stepOf num ≤ num := by
  have hnum : num ≠ 0 := Nat.ne_of_gt ((Nat.two_pow_pos 53).trans_le h)
  have hlog : 53 ≤ Nat.log2 num := (Nat.le_log2 hnum).2 h
  have hexcess : 52 + excess num = Nat.log2 num := by
    rw [excess, precision]
    omega
  rw [stepOf, ← Nat.pow_add, hexcess]
  exact Nat.log2_self_le hnum

/-- What has more bits than a significand is rounded to a multiple of its step with all bits of one. -/
theorem le_of_ofUnits_eq {m : Bool} {k : Nat} (hlarge : 2 ^ 53 * 2 ^ k ≤ num)
    (h : ofUnits negative num 1 = finite m units) : 2 ^ 53 * 2 ^ k ≤ units := by
  rw [← Nat.pow_add] at hlarge ⊢
  have hround : nearestEven num (1 * stepOf (num / 1)) * stepOf (num / 1) = units := by
    rw [ofUnits_eq] at h
    split at h
    · cases h
    · exact (Double.finite.inj h).2
  rw [Nat.one_mul, Nat.div_one] at hround
  have hsize : 2 ^ 53 ≤ num := (Nat.pow_le_pow_right (by decide) (Nat.le_add_right 53 k)).trans hlarge
  have hfew := two_pow_excess_le hsize
  have hnearest : 2 * num ≤ 2 * (nearestEven num (stepOf num) * stepOf num) + stepOf num :=
    (nearestEven_spec (stepOf_pos num)).2
  have hstep : 2 ^ (k + 1) ≤ stepOf num := by
    refine Nat.pow_le_pow_right (by decide) ?_
    have := (Nat.le_log2 (Nat.ne_of_gt ((Nat.two_pow_pos 53).trans_le hsize))).2 hlarge
    rw [excess, precision]
    omega
  have hbits : 2 ^ 52 ≤ nearestEven num (stepOf num) := by
    by_contra hfewer
    have := Nat.mul_le_mul_right (stepOf num) (Nat.lt_of_not_le hfewer)
    have hpos := stepOf_pos num
    rw [Nat.succ_mul] at this
    omega
  calc 2 ^ (53 + k) = 2 ^ 52 * 2 ^ (k + 1) := by rw [← Nat.pow_add, show 52 + (k + 1) = 53 + k by omega]
    _ ≤ nearestEven num (stepOf num) * stepOf num := Nat.mul_le_mul hbits hstep
    _ = units := hround

/-- A number that an integer is rounded to: it is the integer itself, unless that is too large. -/
structure RoundsWhole (n : Int) (x : Double) : Prop where
  exact : n.natAbs ≤ 2 ^ 53 → x.sameInt n = true
  large : 2 ^ 53 ≤ n.natAbs → ∀ m : Int, m.natAbs < 2 ^ 53 → x.sameInt m = false

theorem same_finite {m : Bool} {k : Nat} : (finite negative units).same (finite m k) = true ↔
    signedUnits negative units = signedUnits m k := beq_iff_eq

theorem sameInt_finite {n : Int} : (finite negative units).sameInt n = true ↔
    signedUnits negative units = n * unitsOfOne := beq_iff_eq

theorem sameInt_of_same {x y : Double} {n : Int} (h : x.same y = true) (hx : x.sameInt n = true) :
    y.sameInt n = true := by
  cases x with
  | finite negative units =>
    cases y with
    | finite m k => exact sameInt_finite.2 ((same_finite.1 h).symm.trans (sameInt_finite.1 hx))
    | _ => cases h
  | _ => cases hx

theorem eq_of_sameInt {x : Double} {m n : Int} (hm : x.sameInt m = true) (hn : x.sameInt n = true) : m = n := by
  cases x with
  | finite negative units =>
    have hunits : m * unitsOfOne = n * unitsOfOne := (beq_iff_eq.1 hm).symm.trans (beq_iff_eq.1 hn)
    exact Int.eq_of_mul_eq_mul_right (Int.natCast_ne_zero.2 (Nat.ne_of_gt unitsOfOne_pos)) hunits
  | _ => cases hm

theorem RoundsWhole.eq_of_lt {x y : Double} {m n : Int} (hx : x.RoundsWhole m) (hy : y.RoundsWhole n)
    (hsame : x.same y = true) (hm : m.natAbs < 2 ^ 53) : m = n := by
  have hym : y.sameInt m = true := sameInt_of_same hsame (hx.exact (Nat.le_of_lt hm))
  rcases Nat.lt_or_ge n.natAbs (2 ^ 53) with hn | hn
  · exact eq_of_sameInt hym (hy.exact (Nat.le_of_lt hn))
  · rw [hy.large hn m hm] at hym
    cases hym

/-- Integers with the same number are the same, if one of them is small enough. -/
theorem RoundsWhole.eq_of_same {x y : Double} {m n : Int} (hx : x.RoundsWhole m) (hy : y.RoundsWhole n)
    (hsame : x.same y = true)
    (hsmall : m.natAbs < 2 ^ 53 ∨ n.natAbs < 2 ^ 53 ∨ m.natAbs ≤ 2 ^ 53 ∧ n.natAbs ≤ 2 ^ 53) : m = n := by
  rcases hsmall with hm | hn | ⟨hm, hn⟩
  · exact hx.eq_of_lt hy hsame hm
  · exact (hy.eq_of_lt hx (same_comm x y ▸ hsame) hn).symm
  · exact eq_of_sameInt (sameInt_of_same hsame (hx.exact hm)) (hy.exact hn)

theorem natAbs_signedUnits (negative : Bool) (units : Nat) : (signedUnits negative units).natAbs = units := by
  cases negative <;> simp [signedUnits]

theorem signedUnits_mul (negative : Bool) (n k : Nat) :
    signedUnits negative (n * k) = signedUnits negative n * k := by
  cases negative <;> simp [signedUnits]

theorem sameInt_eq_false_of_le (hunits : 2 ^ 53 * unitsOfOne ≤ units) {m : Int} (hm : m.natAbs < 2 ^ 53) :
    (finite negative units).sameInt m = false := by
  refine Bool.eq_false_iff.2 fun hsame => ?_
  have hsize := congrArg Int.natAbs (sameInt_finite.1 hsame)
  rw [natAbs_signedUnits, Int.natAbs_mul, Int.natAbs_natCast] at hsize
  have := Nat.mul_lt_mul_of_pos_right hm unitsOfOne_pos
  omega

theorem roundsWhole_ofUnits (negative : Bool) (hn : n ≠ 0) :
    (ofUnits negative (n * unitsOfOne) 1).RoundsWhole (signedUnits negative n) := by
  constructor
  · intro hsmall
    rw [natAbs_signedUnits] at hsmall
    have hpos : 0 < n * unitsOfOne := Nat.mul_pos (Nat.pos_of_ne_zero hn) unitsOfOne_pos
    rw [ofUnits_of_isMagnitude negative (isMagnitude_whole hsmall) hpos]
    exact sameInt_finite.2 (signedUnits_mul ..)
  · intro hlarge m hm
    rw [natAbs_signedUnits] at hlarge
    obtain ⟨k, hk⟩ := exists_unitsOfOne_eq
    cases hround : ofUnits negative (n * unitsOfOne) 1 with
    | finite sign units =>
      have hunits : 2 ^ 53 * 2 ^ k ≤ units :=
        le_of_ofUnits_eq (hk ▸ Nat.mul_le_mul_right unitsOfOne hlarge) hround
      exact sameInt_eq_false_of_le (hk ▸ hunits) hm
    | _ => rfl

theorem roundsWhole_ofDecimal (negative : Bool) (n : Nat) :
    (ofDecimal negative n (Nat.toDigits 10 n).length 0).RoundsWhole (signedUnits negative n) := by
  by_cases hzero : n = 0
  · subst hzero
    refine ⟨fun _ => ?_, fun hlarge => ?_⟩
    · have hunits : signedUnits negative 0 = 0 := by cases negative <;> rfl
      rw [ofDecimal, if_pos rfl, sameInt_finite, hunits, Int.zero_mul]
    · rw [natAbs_signedUnits] at hlarge
      exact absurd hlarge (by decide)
  by_cases hmany : (400 : Int) < 0 + (Nat.toDigits 10 n).length
  · -- with so many digits the number is infinite, and the integer is large
    rw [ofDecimal, if_neg hzero, if_pos hmany]
    refine ⟨fun hsmall => ?_, fun _ _ _ => rfl⟩
    rw [natAbs_signedUnits] at hsmall
    have hdigits : 10 ^ 16 ≤ n := (Nat.pow_le_pow_right (by decide) (by omega)).trans (pow_length_le hzero)
    exact absurd (hdigits.trans hsmall) (by decide)
  have hvalue : ofDecimal negative n (Nat.toDigits 10 n).length 0 = ofUnits negative (n * unitsOfOne) 1 := by
    rw [ofDecimal_eq negative hzero (Int.not_lt.1 hmany) (by omega)]
    simp
  rw [hvalue]
  exact roundsWhole_ofUnits negative hzero

end Double

/-! ## Reading -/

section Reading

variable {c : Char} {cs : List Char}

/-- What is said of the ten digits of each script is said of all digits. -/
theorem of_isDecimalDigit {P : Char → Bool} (h : isDecimalDigit c = true)
    (hall : (digitZeros.all fun z => (List.range 10).all fun i => P (Char.ofNat (z + i))) = true) : P c = true := by
  have hzero : ∃ z ∈ digitZeros, z ≤ c.toNat ∧ c.toNat < z + 10 := by
    unfold isDecimalDigit digit? at h
    split at h
    · split at h
      · next hdigit =>
        simp only [Char.isDigit, Bool.and_eq_true, decide_eq_true_eq] at hdigit
        have hlow : 48 ≤ c.toNat := hdigit.1
        have hhigh : c.toNat ≤ 57 := hdigit.2
        exact ⟨0x30, List.mem_cons_self, hlow, by omega⟩
      · cases h
    · rw [Option.isSome_map, List.find?_isSome] at h
      simpa only [Bool.and_eq_true, decide_eq_true_eq] using h
  obtain ⟨z, hz, hlow, hhigh⟩ := hzero
  have hc := List.all_eq_true.1 (List.all_eq_true.1 hall z hz) (c.toNat - z) (List.mem_range.2 (by omega))
  rwa [Nat.add_sub_cancel' hlow, Char.ofNat_toNat] at hc

theorem toLower_of_isDecimalDigit (h : isDecimalDigit c = true) : c.toLower = c :=
  of_decide_eq_true (of_isDecimalDigit (P := fun c => c.toLower = c) h (by decide +kernel))

theorem isBlankAroundNumber_of_isDecimalDigit (h : isDecimalDigit c = true) : isBlankAroundNumber c = false :=
  Bool.not_eq_true' _ ▸ of_isDecimalDigit (P := fun c => !isBlankAroundNumber c) h (by decide +kernel)

def anyDigitValues (cs : List Char) : List Nat := cs.filterMap digit?

theorem digitRun_of_isDecimalDigit (h : ∀ c ∈ cs, isDecimalDigit c = true) (afterDigit : Bool) :
    digitRun afterDigit cs = (anyDigitValues cs, []) := by
  induction cs generalizing afterDigit with
  | nil => rfl
  | cons c cs ih =>
    obtain ⟨d, hd⟩ := Option.isSome_iff_exists.1 (h c List.mem_cons_self)
    rw [digitRun]
    simp only [hd, ih fun e he => h e (List.mem_cons_of_mem c he)]
    rw [anyDigitValues, anyDigitValues, List.filterMap_cons_some hd]

theorem isNumberChar_of_isIntegerShape (h : isIntegerShape cs = true) : ∀ c ∈ cs, isNumberChar c = true :=
  isNumberChar_of_dropSign (isNumberChar_of_areDigits h)

theorem isBlankAroundNumber_of_isNumberChar (h : isNumberChar c = true) : isBlankAroundNumber c = false := by
  rcases Bool.or_eq_true_iff.1 h with h | h
  · exact isBlankAroundNumber_of_isDecimalDigit h
  · have hall : ("+-.eEINF".toList.all fun c => !isBlankAroundNumber c) = true := by decide
    simpa using List.all_eq_true.1 hall c (List.contains_iff_mem.1 h)

theorem snd_readSign (cs : List Char) : (readSign cs).2 = dropSign cs := by
  unfold readSign
  split
  · rfl
  · rfl
  · next hminus hplus =>
    unfold dropSign
    split
    · exact absurd rfl (hplus _)
    · exact absurd rfl (hminus _)
    · rfl

theorem readDouble?_of_isIntegerShape (h : isIntegerShape cs = true) {n : Nat}
    (hn : ofDigits (anyDigitValues (readSign cs).2) = n) : readDouble? (String.ofList cs) =
      some (.ofDecimal (readSign cs).1 n (Nat.toDigits 10 n).length 0) := by
  have htrim : trimNumber cs = cs := trimWhere_of_forall fun c hc =>
    isBlankAroundNumber_of_isNumberChar (isNumberChar_of_isIntegerShape h c hc)
  have hdigits : ∀ c ∈ (readSign cs).2, isDecimalDigit c = true := by
    rw [snd_readSign]
    exact List.all_eq_true.1 (Bool.and_eq_true_iff.1 h).2
  have hsome : (readSign cs).2 ≠ [] := by
    rw [snd_readSign]
    simpa using (Bool.and_eq_true_iff.1 h).1
  unfold readDouble?
  rw [String.toList_ofList, htrim]
  cases hsign : readSign cs with
  | mk negative body =>
    rw [hsign] at hdigits hsome hn
    obtain ⟨d, rest, rfl⟩ := List.exists_cons_of_ne_nil hsome
    have hword : ∀ c word, isDecimalDigit c = false → lowerAscii (d :: rest) ≠ c :: word := by
      intro c word hc heq
      rw [lowerAscii, List.map_cons, toLower_of_isDecimalDigit (hdigits d List.mem_cons_self)] at heq
      rw [← (List.cons.inj heq).1, hdigits d List.mem_cons_self] at hc
      cases hc
    have hvalues : (anyDigitValues (d :: rest)).isEmpty = false := by
      obtain ⟨v, hv⟩ := Option.isSome_iff_exists.1 (hdigits d List.mem_cons_self)
      rw [anyDigitValues, List.filterMap_cons_some hv]
      rfl
    have hrun := digitRun_of_isDecimalDigit hdigits false
    simp only [hword _ _ (show isDecimalDigit 'i' = false by decide),
      hword _ _ (show isDecimalDigit 'n' = false by decide), decide_false, Bool.or_self, Bool.false_eq_true,
      if_false, readMagnitude?, hrun, readFraction, List.append_nil, hvalues, readExponent?, Option.map_some, hn]
    rfl

end Reading

/-! ## Integers -/

/-- The integer that a lexical form denotes, if it has the shape of one. -/
def whole? (lexical : String) : Option Int :=
  let text := trim lexical.toList
  let (negative, digits) := readSign text
  if isIntegerShape text then some (Double.signedUnits negative (ofDigits (anyDigitValues digits))) else none

theorem roundsWhole_of_numericValue {lexical : String} {n : Int} {x : Double} (hn : whole? lexical = some n)
    (hx : CodecFamily.numericValue lexical = .ok x) : x.RoundsWhole n := by
  obtain ⟨hshape, hn⟩ := Option.ite_none_right_eq_some.1 hn
  unfold CodecFamily.numericValue at hx
  dsimp only at hx
  split at hx
  · rw [doubleOf, readDouble?_of_isIntegerShape hshape rfl] at hx
    cases hx
    rw [← Option.some.inj hn]
    exact Double.roundsWhole_ofDecimal ..
  · cases hx

end TripleIndex
