import TripleIndex.Number.Shortest
import TripleIndex.Proofs.Numbers.Rounding

/-!
The shortest decimals of a magnitude. A decimal that holds in the neighbourhood of a magnitude is read as
the magnitude. Grids of seventeen digits are fine enough for every neighbourhood, so the search for the
fewest digits ends with a decimal that holds.
-/

namespace TripleIndex

namespace Double

variable {units digits : Nat} {exponent : Int}

theorem low_neighbourhood (units : Nat) : (neighbourhood units).low = 4 * units - reachBelow units := by
  have hstep : Nat.pow 2 (excess units) = stepOf units := rfl
  have hpow : Nat.pow 2 (Nat.log2 units) = 2 ^ Nat.log2 units := rfl
  simp only [neighbourhood, reachBelow, hstep, hpow, Bool.and_eq_true, decide_eq_true_eq]

theorem high_neighbourhood (units : Nat) : (neighbourhood units).high = 4 * units + 2 * stepOf units := rfl

theorem closed_neighbourhood (units : Nat) :
    (neighbourhood units).closed = true ↔ units / stepOf units % 2 = 0 := decide_eq_true_iff

theorem holds_iff : (neighbourhood units).holds digits exponent = true ↔
    let point := digits * quartersOfOne * 10 ^ exponent.toNat
    let scale := 10 ^ (-exponent).toNat
    (4 * units - reachBelow units) * scale < point ∧ point < (4 * units + 2 * stepOf units) * scale ∨
      units / stepOf units % 2 = 0 ∧ (point = (4 * units - reachBelow units) * scale ∨
        point = (4 * units + 2 * stepOf units) * scale) := by
  have hpow : ∀ k, Nat.pow 10 k = 10 ^ k := fun _ => rfl
  rw [Nat.mul_comm digits]
  simp only [Neighbourhood.holds, hpow, low_neighbourhood, high_neighbourhood, Bool.or_eq_true,
    Bool.and_eq_true, decide_eq_true_eq, beq_iff_eq, closed_neighbourhood]

/-! ## Reading a decimal that holds -/

theorem near_of_holds (h : (neighbourhood units).holds digits exponent = true) :
    Near units (digits * 10 ^ exponent.toNat * unitsOfOne) (10 ^ (-exponent).toNat) := by
  have hpoint : digits * quartersOfOne * 10 ^ exponent.toNat =
      4 * (digits * 10 ^ exponent.toNat * unitsOfOne) := by
    rw [quartersOfOne]
    ring
  have h := holds_iff.1 h
  dsimp only at h
  rw [hpoint] at h
  have hwide : (4 * units - reachBelow units) * 10 ^ (-exponent).toNat ≤
      (4 * units + 2 * stepOf units) * 10 ^ (-exponent).toNat := Nat.mul_le_mul_right _ (by omega)
  constructor
  · rcases h with ⟨hlow, hhigh⟩ | ⟨-, heq | heq⟩ <;> omega
  · rcases h with ⟨hlow, hhigh⟩ | ⟨-, heq | heq⟩ <;> omega
  · intro htie
    rcases h with ⟨hlow, hhigh⟩ | ⟨heven, -⟩
    · omega
    · exact heven

theorem ofDecimal_eq (negative : Bool) {count : Nat} (hdigits : digits ≠ 0) (hlarge : exponent + count ≤ 400)
    (hsmall : -400 ≤ exponent + count) : ofDecimal negative digits count exponent =
      ofUnits negative (digits * 10 ^ exponent.toNat * unitsOfOne) (10 ^ (-exponent).toNat) := by
  rw [ofDecimal, if_neg hdigits, if_neg (Int.not_lt.2 hlarge), if_neg (Int.not_lt.2 hsmall)]
  split
  · next hexponent =>
    have hnone : (-exponent).toNat = 0 := by omega
    rw [hnone]
    rfl
  · next hexponent =>
    have hnone : exponent.toNat = 0 := by omega
    rw [hnone, Nat.pow_zero, Nat.mul_one]
    rfl

theorem pow_length_le (hdigits : digits ≠ 0) : 10 ^ ((Nat.toDigits 10 digits).length - 1) ≤ digits := by
  by_cases hone : (Nat.toDigits 10 digits).length = 1
  · rw [hone]
    omega
  · have hpos : 0 < (Nat.toDigits 10 digits).length := Nat.length_toDigits_pos
    refine Nat.le_of_not_lt fun hlt => ?_
    have := (Nat.length_toDigits_le_iff (by decide) (by omega)).2 hlt
    omega

theorem lt_pow_length (digits : Nat) : digits < 10 ^ (Nat.toDigits 10 digits).length :=
  (Nat.length_toDigits_le_iff (by decide) Nat.length_toDigits_pos).1 (Nat.le_refl _)

/-- A decimal with its first digit above a place is at least that large. -/
theorem pow_mul_scale_le {count k : Nat} (hfew : 10 ^ (count - 1) ≤ digits) (hcount : 0 < count)
    (h : (k : Int) < exponent + count) :
    10 ^ k * 10 ^ (-exponent).toNat ≤ digits * 10 ^ exponent.toNat := by
  calc 10 ^ k * 10 ^ (-exponent).toNat = 10 ^ (k + (-exponent).toNat) := (Nat.pow_add ..).symm
    _ ≤ 10 ^ (count - 1 + exponent.toNat) := Nat.pow_le_pow_right (by decide) (by omega)
    _ = 10 ^ (count - 1) * 10 ^ exponent.toNat := Nat.pow_add ..
    _ ≤ digits * 10 ^ exponent.toNat := Nat.mul_le_mul_right _ hfew

theorem mul_pow_le_scale {count k : Nat} (hmany : digits < 10 ^ count) (h : exponent + count ≤ -(k : Int)) :
    digits * 10 ^ exponent.toNat * 10 ^ k ≤ 10 ^ (-exponent).toNat := by
  calc digits * 10 ^ exponent.toNat * 10 ^ k ≤ 10 ^ count * 10 ^ exponent.toNat * 10 ^ k :=
        Nat.mul_le_mul_right _ (Nat.mul_le_mul_right _ (Nat.le_of_lt hmany))
    _ = 10 ^ (count + exponent.toNat + k) := by rw [Nat.pow_add, Nat.pow_add]
    _ ≤ 10 ^ (-exponent).toNat := Nat.pow_le_pow_right (by decide) (by omega)

theorem ne_zero_of_holds (hunits : IsMagnitude units) (hpos : 0 < units)
    (h : (neighbourhood units).holds digits exponent = true) : digits ≠ 0 := by
  rintro rfl
  have hlow := (near_of_holds h).low
  have hreach := reachBelow_le units
  have hstep := stepOf_le hunits hpos
  have hscale : 0 < 10 ^ (-exponent).toNat := Nat.pow_pos (by decide)
  have hfar : 0 < (4 * units - reachBelow units) * 10 ^ (-exponent).toNat := Nat.mul_pos (by omega) hscale
  rw [Nat.zero_mul, Nat.zero_mul] at hlow
  omega

/-- A decimal that is no larger than the format goes has its first digit no higher than four hundred places. -/
theorem first_le_of_le {count : Nat} (hfew : 10 ^ (count - 1) ≤ digits) (hcount : 0 < count)
    (h : 4 * (digits * 10 ^ exponent.toNat * unitsOfOne) ≤ 6 * overflow * 10 ^ (-exponent).toNat) :
    exponent + count ≤ 400 := by
  by_contra hlarge
  have hpoint := pow_mul_scale_le (k := 400) hfew hcount (Int.not_le.1 hlarge)
  have hbig : 6 * overflow < 4 * 10 ^ 400 * unitsOfOne := by decide +kernel
  have hscale : 0 < 10 ^ (-exponent).toNat := Nat.pow_pos (by decide)
  generalize 10 ^ 400 = big at hpoint hbig
  generalize digits * 10 ^ exponent.toNat = point at *
  have hhigh := Nat.mul_lt_mul_of_pos_right hbig hscale
  have hlow := Nat.mul_le_mul_right (4 * unitsOfOne) hpoint
  have hleft : 4 * big * unitsOfOne * 10 ^ (-exponent).toNat =
      big * 10 ^ (-exponent).toNat * (4 * unitsOfOne) := by ring
  have hright : point * (4 * unitsOfOne) = 4 * (point * unitsOfOne) := by ring
  omega

theorem le_first_of_le {count : Nat} (hdigits : digits ≠ 0) (hmany : digits < 10 ^ count)
    (h : 2 * 10 ^ (-exponent).toNat ≤ 4 * (digits * 10 ^ exponent.toNat * unitsOfOne)) :
    -400 ≤ exponent + count := by
  by_contra hsmall
  have hplace : exponent + count ≤ -((401 : Nat) : Int) := by omega
  have hpoint := mul_pow_le_scale hmany hplace
  have hbig : 4 * unitsOfOne < 2 * 10 ^ 401 := by decide +kernel
  have hpointPos : 0 < digits * 10 ^ exponent.toNat :=
    Nat.mul_pos (Nat.pos_of_ne_zero hdigits) (Nat.pow_pos (by decide))
  generalize 10 ^ 401 = big at hpoint hbig
  generalize digits * 10 ^ exponent.toNat = point at *
  have hhigh := Nat.mul_lt_mul_of_pos_left hbig hpointPos
  have hleft : point * (4 * unitsOfOne) = 4 * (point * unitsOfOne) := by ring
  have hright : point * (2 * big) = 2 * (point * big) := by ring
  omega

theorem ofDecimal_of_holds (negative : Bool) (hunits : IsMagnitude units) (hpos : 0 < units)
    (h : (neighbourhood units).holds digits exponent = true) :
    ofDecimal negative digits (Nat.toDigits 10 digits).length exponent = finite negative units := by
  have hnear := near_of_holds h
  have hstep := stepOf_le hunits hpos
  have hreach := reachBelow_le units
  have hleast : 2 * 10 ^ (-exponent).toNat ≤ 4 * (digits * 10 ^ exponent.toNat * unitsOfOne) := by
    have hfar : 2 ≤ 4 * units - reachBelow units := by omega
    exact (Nat.mul_le_mul_right _ hfar).trans hnear.low
  have hmost : 4 * (digits * 10 ^ exponent.toNat * unitsOfOne) ≤ 6 * overflow * 10 ^ (-exponent).toNat := by
    refine hnear.high.trans (Nat.mul_le_mul_right _ ?_)
    have := hunits.lt_overflow
    omega
  have hdigits := ne_zero_of_holds hunits hpos h
  rw [ofDecimal_eq negative hdigits (first_le_of_le (pow_length_le hdigits) Nat.length_toDigits_pos hmost)
    (le_first_of_le hdigits (lt_pow_length digits) hleast)]
  exact ofUnits_of_near negative hunits hpos (Nat.pow_pos (by decide)) hnear

theorem holds_shift_one (units digits : Nat) (exponent : Int) :
    (neighbourhood units).holds (digits * 10) (exponent - 1) = (neighbourhood units).holds digits exponent := by
  rw [Bool.eq_iff_iff, holds_iff, holds_iff]
  dsimp only
  by_cases hexponent : 1 ≤ exponent
  · obtain ⟨e, rfl⟩ : ∃ e : Nat, exponent = e + 1 := ⟨(exponent - 1).toNat, by omega⟩
    have hpoint : digits * 10 * quartersOfOne * 10 ^ e = digits * quartersOfOne * 10 ^ (e + 1) := by
      rw [Nat.pow_succ]
      ring
    rw [show ((e : Int) + 1 - 1).toNat = e by omega, show (-((e : Int) + 1 - 1)).toNat = 0 by omega,
      show ((e : Int) + 1).toNat = e + 1 by omega, show (-((e : Int) + 1)).toNat = 0 by omega, hpoint]
  · obtain ⟨e, rfl⟩ : ∃ e : Nat, exponent = -e := ⟨(-exponent).toNat, by omega⟩
    rw [show (-(e : Int) - 1).toNat = 0 by omega, show (-(-(e : Int) - 1)).toNat = e + 1 by omega,
      show (-(e : Int)).toNat = 0 by omega, show (-(-(e : Int))).toNat = e by omega, Nat.pow_succ]
    generalize 4 * units - reachBelow units = low
    generalize 4 * units + 2 * stepOf units = high
    have hpoint : digits * 10 * quartersOfOne * 10 ^ 0 = 10 * (digits * quartersOfOne * 10 ^ 0) := by ring
    have hlow : low * (10 ^ e * 10) = 10 * (low * 10 ^ e) := by ring
    have hhigh : high * (10 ^ e * 10) = 10 * (high * 10 ^ e) := by ring
    rw [hpoint, hlow, hhigh]
    omega

theorem holds_shift (units digits : Nat) (exponent : Int) (zeros : Nat) :
    (neighbourhood units).holds (digits * 10 ^ zeros) (exponent - zeros) =
      (neighbourhood units).holds digits exponent := by
  induction zeros with
  | zero => rw [Nat.pow_zero, Nat.mul_one, Int.natCast_zero, Int.sub_zero]
  | succ zeros ih =>
    have hexponent : exponent - (zeros + 1 : Nat) = exponent - zeros - 1 := by omega
    rw [← ih, hexponent, Nat.pow_succ, ← Nat.mul_assoc, holds_shift_one]

/-! ## The place of the first digit -/

/-- A place is no higher than that of the first digit. -/
def Neighbourhood.Reaches (n : Neighbourhood) (place : Int) : Prop :=
  quartersOfOne * 10 ^ place.toNat ≤ n.value * 10 ^ (-place).toNat

theorem reaches_go (n : Neighbourhood) (fuel : Nat) (place : Int) :
    n.Reaches (Neighbourhood.leading.go n fuel place) ∨ Neighbourhood.leading.go n fuel place = place - fuel := by
  induction fuel generalizing place with
  | zero => exact .inr (Int.sub_zero place).symm
  | succ fuel ih =>
    rw [Neighbourhood.leading.go]
    split
    · next h => exact .inl h
    · rcases ih (place - 1) with h | h
      · exact .inl h
      · exact .inr (by omega)

theorem quartersOfOne_eq : quartersOfOne = 2 ^ Nat.log2 quartersOfOne := by decide +kernel

/-- Counting decimal places by a fraction that is too small gives a power of ten that is too small. -/
theorem pow_le_two_pow {num den : Nat} (hden : den ≠ 0) (hplace : 10 ^ num ≤ 2 ^ den) (d : Nat) :
    10 ^ (d * num / den) ≤ 2 ^ d := by
  refine (Nat.pow_le_pow_iff_left hden).1 ?_
  calc (10 ^ (d * num / den)) ^ den = 10 ^ (d * num / den * den) := (Nat.pow_mul ..).symm
    _ ≤ 10 ^ (num * d) := Nat.pow_le_pow_right (by decide) (Nat.mul_comm d num ▸ Nat.div_mul_le_self ..)
    _ = (10 ^ num) ^ d := Nat.pow_mul ..
    _ ≤ (2 ^ den) ^ d := Nat.pow_le_pow_left hplace d
    _ = (2 ^ d) ^ den := by rw [← Nat.pow_mul, ← Nat.pow_mul, Nat.mul_comm]

/-- One that is nearly right gives at most one place too few, rounded up. -/
theorem two_pow_le_pow {num den e : Nat} (hplace : 2 ^ den ≤ 2 * 10 ^ num) (he : e ≤ den) (hpos : 0 < den) :
    2 ^ e ≤ 10 ^ ((e * num + (den - 1)) / den + 1) := by
  have hup : num * e ≤ (e * num + (den - 1)) / den * den := by
    have hdivision := Nat.div_add_mod' (e * num + (den - 1)) den
    have hrest := Nat.mod_lt (e * num + (den - 1)) hpos
    rw [Nat.mul_comm num e]
    omega
  have hpow : (2 ^ e) ^ den ≤ (2 * 10 ^ ((e * num + (den - 1)) / den)) ^ den := by
    calc (2 ^ e) ^ den = (2 ^ den) ^ e := by rw [← Nat.pow_mul, ← Nat.pow_mul, Nat.mul_comm]
      _ ≤ (2 * 10 ^ num) ^ e := Nat.pow_le_pow_left hplace e
      _ = 2 ^ e * 10 ^ (num * e) := by rw [Nat.mul_pow, ← Nat.pow_mul]
      _ ≤ 2 ^ den * 10 ^ ((e * num + (den - 1)) / den * den) :=
        Nat.mul_le_mul (Nat.pow_le_pow_right (by decide) he) (Nat.pow_le_pow_right (by decide) hup)
      _ = (2 * 10 ^ ((e * num + (den - 1)) / den)) ^ den := by rw [Nat.mul_pow, ← Nat.pow_mul]
  have := (Nat.pow_le_pow_iff_left (Nat.ne_of_gt hpos)).1 hpow
  rw [Nat.pow_succ]
  omega

/-- A magnitude of at least one, guessed one place too low, has its first digit above the guess. -/
theorem guess_above (base d : Nat) : 2 ^ base * 10 ^ (((d * 1233 / 4096 : Nat) : Int) - 1).toNat ≤
    2 ^ (base + d) * 10 ^ (-(((d * 1233 / 4096 : Nat) : Int) - 1)).toNat := by
  have hplaces : 10 ^ (d * 1233 / 4096) ≤ 2 ^ d := pow_le_two_pow (by decide) (by decide +kernel) d
  rw [Nat.pow_add, Nat.mul_assoc]
  refine Nat.mul_le_mul_left _ ?_
  generalize d * 1233 / 4096 = places at *
  calc 10 ^ ((places : Int) - 1).toNat ≤ 10 ^ places := Nat.pow_le_pow_right (by decide) (by omega)
    _ ≤ 2 ^ d := hplaces
    _ ≤ 2 ^ d * 10 ^ (-((places : Int) - 1)).toNat := Nat.le_mul_of_pos_right _ (Nat.pow_pos (by decide))

/-- A magnitude below one has it above the guess as long as it is not too small. -/
theorem guess_below {e : Nat} (he : e ≤ 4096) (size : Nat) :
    2 ^ (size + e) * 10 ^ (-(((e * 1233 + (4096 - 1)) / 4096 + 1 : Nat) : Int)).toNat ≤
      2 ^ size * 10 ^ (-(-(((e * 1233 + (4096 - 1)) / 4096 + 1 : Nat) : Int))).toNat := by
  have hplaces : 2 ^ e ≤ 10 ^ ((e * 1233 + (4096 - 1)) / 4096 + 1) :=
    two_pow_le_pow (by decide +kernel) he (by decide)
  rw [Nat.pow_add, Nat.mul_assoc]
  refine Nat.mul_le_mul_left _ ?_
  generalize (e * 1233 + (4096 - 1)) / 4096 + 1 = places at *
  rw [show (-(places : Int)).toNat = 0 by omega, show (-(-(places : Int))).toNat = places by omega,
    Nat.pow_zero, Nat.mul_one]
  exact hplaces

/-- The place that the search begins at is no higher than that of the first digit. -/
theorem reaches_leading (hpos : 0 < units) :
    (neighbourhood units).Reaches (neighbourhood units).leading := by
  have hvalue : 2 ^ Nat.log2 (neighbourhood units).value ≤ (neighbourhood units).value := by
    refine Nat.log2_self_le ?_
    show 4 * units ≠ 0
    omega
  have hbase : Nat.log2 quartersOfOne ≤ 4096 := by decide +kernel
  have hone := quartersOfOne_eq
  unfold Neighbourhood.leading
  dsimp only
  rcases reaches_go (neighbourhood units) 3
    ((Nat.log2 (neighbourhood units).value - Nat.log2 quartersOfOne : Int) * 1233 / 4096 + 2) with h | h
  · exact h
  rw [h]
  unfold Neighbourhood.Reaches
  refine Nat.le_trans ?_ (Nat.mul_le_mul_right _ hvalue)
  generalize Nat.log2 (neighbourhood units).value = size
  generalize Nat.log2 quartersOfOne = base at *
  rw [hone]
  -- the fraction 1233 / 4096 is below the logarithm of two, and the guess is rounded down
  rcases Nat.le_total base size with hle | hle
  · obtain ⟨d, rfl⟩ := Nat.exists_eq_add_of_le hle
    have hguess : (((base + d : Nat) : Int) - base) * 1233 / 4096 + 2 - (3 : Nat) =
        ((d * 1233 / 4096 : Nat) : Int) - 1 := by omega
    rw [hguess]
    exact guess_above base d
  · obtain ⟨e, rfl⟩ := Nat.exists_eq_add_of_le hle
    have hguess : ((size : Int) - (size + e : Nat)) * 1233 / 4096 + 2 - (3 : Nat) =
        -(((e * 1233 + (4096 - 1)) / 4096 + 1 : Nat) : Int) := by omega
    rw [hguess]
    exact guess_below (by omega) size

/-! ## The search -/

theorem Neighbourhood.Reaches.sub {n : Neighbourhood} {place : Int} (h : n.Reaches place) (count : Nat) :
    quartersOfOne * 10 ^ (place - count).toNat * 10 ^ count ≤ n.value * 10 ^ (-(place - count)).toNat := by
  unfold Neighbourhood.Reaches at h
  have hplaces : place.toNat + (-(place - count)).toNat = (place - count).toNat + count + (-place).toNat := by
    omega
  have hscale : 0 < 10 ^ (-place).toNat := Nat.pow_pos (by decide)
  refine Nat.le_of_mul_le_mul_right ?_ hscale
  calc quartersOfOne * 10 ^ (place - count).toNat * 10 ^ count * 10 ^ (-place).toNat =
        quartersOfOne * 10 ^ ((place - count).toNat + count + (-place).toNat) := by
        rw [Nat.pow_add, Nat.pow_add]
        ring
    _ = quartersOfOne * 10 ^ place.toNat * 10 ^ (-(place - count)).toNat := by
        rw [← hplaces, Nat.pow_add]
        ring
    _ ≤ n.value * 10 ^ (-place).toNat * 10 ^ (-(place - count)).toNat := Nat.mul_le_mul_right _ h
    _ = n.value * 10 ^ (-(place - count)).toNat * 10 ^ (-place).toNat := by ring

theorem holds_of_fine (hunits : IsMagnitude units) (hpos : 0 < units)
    (hdigits : 2 * (digits * (quartersOfOne * 10 ^ exponent.toNat)) ≤
      2 * (4 * units * 10 ^ (-exponent).toNat) + quartersOfOne * 10 ^ exponent.toNat)
    (hdigits' : 2 * (4 * units * 10 ^ (-exponent).toNat) ≤
      2 * (digits * (quartersOfOne * 10 ^ exponent.toNat)) + quartersOfOne * 10 ^ exponent.toNat)
    (hfine : quartersOfOne * 10 ^ exponent.toNat < 2 * (reachBelow units * 10 ^ (-exponent).toNat)) :
    (neighbourhood units).holds digits exponent = true := by
  refine holds_iff.2 (.inl ?_)
  have hreach := Nat.mul_le_mul_right (10 ^ (-exponent).toNat) (reachBelow_le units)
  have hstep := Nat.mul_le_mul_right (10 ^ (-exponent).toNat) (stepOf_le hunits hpos)
  have hpoint : digits * quartersOfOne * 10 ^ exponent.toNat = digits * (quartersOfOne * 10 ^ exponent.toNat) :=
    Nat.mul_assoc ..
  rw [hpoint, Nat.sub_mul, Nat.add_mul]
  rw [Nat.mul_assoc] at hdigits hdigits' hreach
  rw [Nat.mul_assoc 2, Nat.mul_assoc 4]
  omega

/-- A magnitude has at most 53 bits, all of its reach below it wide. -/
theorem le_reachBelow (hunits : IsMagnitude units) (hpos : 0 < units) :
    4 * units ≤ 2 ^ 54 * reachBelow units := by
  have hbits : units < 2 ^ 53 * stepOf units := by
    rw [stepOf, ← Nat.pow_add]
    exact lt_of_excess
  have hstep := stepOf_le hunits hpos
  unfold reachBelow
  split
  · next hbegin =>
    obtain ⟨hpower, hwide⟩ := hbegin
    have hexcess : Nat.log2 units = 52 + excess units := by
      have : excess units ≠ 0 := fun hnone => by rw [stepOf, hnone] at hwide; omega
      unfold excess precision at *
      omega
    have hunits : units = 2 ^ 52 * stepOf units := by
      rw [stepOf, ← Nat.pow_add, ← hexcess]
      exact hpower
    omega
  · omega

theorem reachBelow_pos (units : Nat) : 0 < reachBelow units := by
  have := stepOf_pos units
  unfold reachBelow
  split <;> omega

theorem fine_of_reaches (hunits : IsMagnitude units) (hpos : 0 < units)
    {place : Int} (h : (neighbourhood units).Reaches place) :
    quartersOfOne * 10 ^ (place - (16 : Nat)).toNat < 2 * (reachBelow units * 10 ^ (-(place - (16 : Nat))).toNat) := by
  have hgrid : quartersOfOne * 10 ^ (place - (16 : Nat)).toNat * 10 ^ 16 ≤
      4 * units * 10 ^ (-(place - (16 : Nat))).toNat := h.sub 16
  have hscale : 0 < 10 ^ (-(place - (16 : Nat))).toNat := Nat.pow_pos (by decide)
  generalize quartersOfOne * 10 ^ (place - (16 : Nat)).toNat = grid at *
  generalize 10 ^ (-(place - (16 : Nat))).toNat = scale at *
  have hwidth : 4 * units * scale ≤ 2 ^ 54 * (reachBelow units * scale) := by
    rw [← Nat.mul_assoc]
    exact Nat.mul_le_mul_right scale (le_reachBelow hunits hpos)
  have hreach : 0 < reachBelow units * scale := Nat.mul_pos (reachBelow_pos units) hscale
  omega

theorem onGrid?_eq (n : Neighbourhood) (exponent : Int) : ∃ other, n.onGrid? exponent =
    if n.holds (nearestEven (n.value * 10 ^ (-exponent).toNat) (quartersOfOne * 10 ^ exponent.toNat)) exponent then
      some (nearestEven (n.value * 10 ^ (-exponent).toNat) (quartersOfOne * 10 ^ exponent.toNat))
    else if n.holds other exponent then some other else none :=
  ⟨_, rfl⟩

theorem holds_of_onGrid? {n : Neighbourhood} (h : n.onGrid? exponent = some digits) :
    n.holds digits exponent = true := by
  obtain ⟨other, hgrid⟩ := onGrid?_eq n exponent
  rw [hgrid] at h
  split at h
  · next hholds => exact Option.some.inj h ▸ hholds
  split at h
  · next hholds => exact Option.some.inj h ▸ hholds
  · cases h

/-- The search ends at the grid of seventeen digits. -/
theorem isSome_onGrid? (hunits : IsMagnitude units) (hpos : 0 < units) {place : Int}
    (h : (neighbourhood units).Reaches place) :
    ((neighbourhood units).onGrid? (place - (16 : Nat))).isSome := by
  have hone : 0 < quartersOfOne := by decide +kernel
  have hden : 0 < quartersOfOne * 10 ^ (place - (16 : Nat)).toNat :=
    Nat.mul_pos hone (Nat.pow_pos (by decide))
  obtain ⟨hlow, hhigh⟩ := @nearestEven_spec ((neighbourhood units).value * 10 ^ (-(place - (16 : Nat))).toNat) _ hden
  have hholds := holds_of_fine hunits hpos hlow hhigh (fine_of_reaches hunits hpos h)
  obtain ⟨other, hgrid⟩ := onGrid?_eq (neighbourhood units) (place - (16 : Nat))
  rw [hgrid, if_pos hholds]
  rfl

theorem holds_shortest {n : Neighbourhood} {leading : Int} (hlast : (n.onGrid? (leading - (16 : Nat))).isSome)
    {left count : Nat} (hcount : count + left = 16) :
    n.holds (n.shortest leading left count).1 (n.shortest leading left count).2 = true := by
  -- the search goes on with one digit more, and seventeen are always enough
  induction left generalizing count with
  | zero =>
    obtain rfl : count = 16 := hcount
    obtain ⟨digits, hdigits⟩ := Option.isSome_iff_exists.1 hlast
    rw [Neighbourhood.shortest, hdigits]
    exact holds_of_onGrid? hdigits
  | succ left ih =>
    rw [Neighbourhood.shortest]
    split
    · next digits hdigits => exact holds_of_onGrid? hdigits
    · exact ih (by omega)

/-- The fewest digits are those of a decimal that holds, without its trailing zeros. -/
theorem fewestDigits_eq (hunits : IsMagnitude units) (hpos : 0 < units) :
    ∃ digits exponent, (neighbourhood units).holds digits exponent = true ∧
      fewestDigits units =
        (significant (Nat.toDigits 10 digits), exponent + (Nat.toDigits 10 digits).length - 1) := by
  have hlast := isSome_onGrid? hunits hpos (reaches_leading hpos)
  have hholds := holds_shortest hlast (Nat.zero_add 16)
  unfold fewestDigits
  dsimp only
  exact ⟨_, _, hholds, rfl⟩

end Double

end TripleIndex
