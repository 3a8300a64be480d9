import Mathlib.Tactic.Ring
import TripleIndex.Number.Read

/-!
Rounding to binary64. A magnitude of the format is a multiple of the step between the magnitudes of its
size. What is rounded is a magnitude of the format, and what lies at most half a step from one, or a
quarter below one that begins a size, is rounded to it.
-/

namespace TripleIndex

namespace Double

/-- The quotient nearest to a ratio is known by its distance, a tie by the even quotient. -/
theorem nearestEven_eq {num den k : Nat} (hden : 0 < den) (hlow : 2 * (k * den) ≤ 2 * num + den)
    (hhigh : 2 * num ≤ 2 * (k * den) + den)
    (htie : 2 * (k * den) = 2 * num + den ∨ 2 * num = 2 * (k * den) + den → k % 2 = 0) :
    nearestEven num den = k := by
  have hdivision : num / den * den + num % den = num := Nat.div_add_mod' num den
  have hrest : num % den < den := Nat.mod_lt num hden
  unfold nearestEven
  dsimp only
  generalize num / den = q at *
  generalize num % den = r at *
  -- a number further off than the next quotient is out of the bounds
  have hq : k = q ∨ k = q + 1 := by
    rcases Nat.lt_trichotomy k q with hlt | rfl | hgt
    · have : (k + 1) * den ≤ q * den := Nat.mul_le_mul_right den hlt
      rw [Nat.succ_mul] at this
      omega
    · exact .inl rfl
    · rcases Nat.eq_or_lt_of_le hgt with heq | hlt
      · exact .inr heq.symm
      · have : (q + 2) * den ≤ k * den := Nat.mul_le_mul_right den hlt
        rw [Nat.add_mul] at this
        omega
  rcases hq with rfl | rfl
  · split
    · rfl
    split
    · omega
    · have := htie (.inr (by omega))
      omega
  · rw [Nat.add_mul, Nat.one_mul] at hlow hhigh htie
    split
    · omega
    split
    · rfl
    · have := htie (.inl (by omega))
      omega

theorem nearestEven_spec {num den : Nat} (hden : 0 < den) :
    2 * (nearestEven num den * den) ≤ 2 * num + den ∧ 2 * num ≤ 2 * (nearestEven num den * den) + den := by
  have hdivision : num / den * den + num % den = num := Nat.div_add_mod' num den
  have hrest : num % den < den := Nat.mod_lt num hden
  unfold nearestEven
  dsimp only
  generalize num / den = q at *
  generalize num % den = r at *
  split
  · omega
  split
  · rw [Nat.add_mul, Nat.one_mul]
    omega
  · rw [Nat.add_mul]
    rcases Nat.mod_two_eq_zero_or_one q with hparity | hparity
    · rw [hparity]
      omega
    · rw [hparity]
      omega

def stepOf (units : Nat) : Nat := 2 ^ excess units

theorem stepOf_pos (units : Nat) : 0 < stepOf units := Nat.two_pow_pos _

/-- A magnitude of the format. -/
structure IsMagnitude (units : Nat) : Prop where
  step_dvd : stepOf units ∣ units
  lt_overflow : units < overflow

/-- A finite number of the format, an infinity, or no number at all. -/
inductive IsRounded : Double → Prop
  | finite {negative : Bool} {units : Nat} (h : IsMagnitude units) : IsRounded (.finite negative units)
  | infinite (negative : Bool) : IsRounded (.infinite negative)
  | nan (payload : Nat) : IsRounded (.nan payload)

theorem lt_of_excess {units : Nat} : units < 2 ^ (53 + excess units) := by
  refine Nat.lt_log2_self.trans_le (Nat.pow_le_pow_right (by decide) ?_)
  unfold excess precision
  omega

theorem excess_le_of_lt {units e : Nat} (h : units < 2 ^ (53 + e)) : excess units ≤ e := by
  unfold excess precision
  rcases Nat.eq_zero_or_pos units with rfl | hpos
  · rw [Nat.log2_zero]
    omega
  · have := (Nat.log2_lt (Nat.ne_of_gt hpos)).2 h
    omega

theorem ofUnits_eq (negative : Bool) (num den : Nat) : ofUnits negative num den =
    if overflow ≤ nearestEven num (den * stepOf (num / den)) * stepOf (num / den) then infinite negative
    else finite negative (nearestEven num (den * stepOf (num / den)) * stepOf (num / den)) := rfl

/-- A quotient by a step is a significand or the first number with more bits. -/
theorem nearestEven_le {num den : Nat} (hden : 0 < den) :
    nearestEven num (den * stepOf (num / den)) ≤ 2 ^ 53 := by
  have hstep : 0 < den * stepOf (num / den) := Nat.mul_pos hden (stepOf_pos _)
  have hnearest := (@nearestEven_spec num _ hstep).1
  have hnum : num < 2 ^ 53 * (den * stepOf (num / den)) := by
    calc num < 2 ^ (53 + excess (num / den)) * den := Nat.lt_mul_of_div_lt lt_of_excess hden
      _ = 2 ^ 53 * (den * stepOf (num / den)) := by rw [Nat.pow_add, stepOf]; ring
  generalize den * stepOf (num / den) = step at *
  by_contra hlarge
  have : (2 ^ 53 + 1) * step ≤ nearestEven num step * step :=
    Nat.mul_le_mul_right step (Nat.lt_of_not_le hlarge)
  rw [Nat.add_mul] at this
  omega

/-- A significand times a step is a multiple of its own step. -/
theorem stepOf_dvd {k e : Nat} (hk : k ≤ 2 ^ 53) : stepOf (k * 2 ^ e) ∣ k * 2 ^ e := by
  rcases Nat.eq_or_lt_of_le hk with rfl | hlt
  · have hexcess : excess (2 ^ 53 * 2 ^ e) = e + 1 := by
      rw [← Nat.pow_add, excess, Nat.log2_two_pow, precision]
      omega
    rw [stepOf, hexcess, ← Nat.pow_add]
    exact Nat.pow_dvd_pow 2 (by omega)
  · have hexcess : excess (k * 2 ^ e) ≤ e := by
      refine excess_le_of_lt ?_
      rw [Nat.pow_add]
      exact Nat.mul_lt_mul_of_pos_right hlt (Nat.two_pow_pos e)
    exact (Nat.pow_dvd_pow 2 hexcess).trans (Nat.dvd_mul_left _ _)

theorem isRounded_ofUnits (negative : Bool) (num : Nat) {den : Nat} (hden : 0 < den) :
    (ofUnits negative num den).IsRounded := by
  rw [ofUnits_eq]
  split
  · exact .infinite negative
  · next hfinite => exact .finite ⟨stepOf_dvd (nearestEven_le hden), Nat.lt_of_not_le hfinite⟩

theorem isRounded_ofDecimal (negative : Bool) (digits count : Nat) (exponent : Int) :
    (ofDecimal negative digits count exponent).IsRounded := by
  have hzero : IsMagnitude 0 := ⟨Nat.dvd_zero _, by decide +kernel⟩
  unfold ofDecimal
  split
  · exact .finite hzero
  split
  · exact .infinite negative
  split
  · exact .finite hzero
  split
  · exact isRounded_ofUnits negative _ Nat.one_pos
  · exact isRounded_ofUnits negative _ (Nat.pow_pos (by decide))

theorem isRounded_of_readDouble? {s : String} {x : Double} (h : readDouble? s = some x) : x.IsRounded := by
  unfold readDouble? at h
  split at h
  dsimp only at h
  split at h
  · cases h
    exact .infinite _
  split at h
  · cases h
    exact .nan 0
  unfold readMagnitude? at h
  dsimp only at h
  split at h
  · cases h
  · obtain ⟨e, -, rfl⟩ := Option.map_eq_some_iff.1 h
    exact isRounded_ofDecimal ..

/-! ## What is rounded to a magnitude -/

/-- How far below a magnitude what is rounded to it begins, in quarters of a unit. -/
def reachBelow (units : Nat) : Nat :=
  if units = 2 ^ Nat.log2 units ∧ 1 < stepOf units then stepOf units else 2 * stepOf units

/-- What lies at most half a step from a magnitude, or a quarter below one that begins a size, is rounded
to it, a tie only where the significand is even. -/
structure Near (units num den : Nat) : Prop where
  low : (4 * units - reachBelow units) * den ≤ 4 * num
  high : 4 * num ≤ (4 * units + 2 * stepOf units) * den
  tie : 4 * num = (4 * units - reachBelow units) * den ∨ 4 * num = (4 * units + 2 * stepOf units) * den →
    units / stepOf units % 2 = 0

theorem reachBelow_le (units : Nat) : reachBelow units ≤ 2 * stepOf units := by
  unfold reachBelow
  split
  · omega
  · exact Nat.le_refl _

theorem stepOf_le {units : Nat} (hunits : IsMagnitude units) (hpos : 0 < units) : stepOf units ≤ units :=
  Nat.le_of_dvd hpos hunits.step_dvd

theorem add_le_of_dvd {step a b : Nat} (ha : step ∣ a) (hb : step ∣ b) (h : a < b) : a + step ≤ b := by
  have := Nat.le_of_dvd (Nat.sub_pos_of_lt h) (Nat.dvd_sub hb ha)
  omega

theorem log2_eq_of_bounds {n k : Nat} (hlow : 2 ^ k ≤ n) (hhigh : n < 2 ^ (k + 1)) : Nat.log2 n = k := by
  have hn : n ≠ 0 := Nat.ne_of_gt ((Nat.two_pow_pos k).trans_le hlow)
  exact (Nat.log2_eq_iff hn).2 ⟨hlow, hhigh⟩

theorem stepOf_mono {m n : Nat} (h : m ≤ n) : stepOf m ≤ stepOf n :=
  Nat.pow_le_pow_right (by decide) (excess_le_of_lt (h.trans_lt lt_of_excess))

theorem stepOf_eq_of_log2 {m n : Nat} (h : Nat.log2 m = Nat.log2 n) : stepOf m = stepOf n := by
  rw [stepOf, stepOf, excess, excess, h]

/-- A step divides the first magnitude of its size and those of the sizes above. -/
theorem stepOf_dvd_two_pow {units k : Nat} (h : Nat.log2 units ≤ k) : stepOf units ∣ 2 ^ k := by
  refine Nat.pow_dvd_pow 2 ?_
  unfold excess precision
  omega

theorem le_log2_of_one_lt_stepOf {units : Nat} (h : 1 < stepOf units) : 53 ≤ Nat.log2 units := by
  by_contra hsmall
  rw [stepOf, excess, precision, Nat.sub_eq_zero_of_le (by omega)] at h
  exact absurd h (by decide)

namespace Near

variable {units num den : Nat} (hunits : IsMagnitude units) (hden : 0 < den) (h : Near units num den)

include hunits hden h

/-- The size above begins a whole step above a magnitude, and what lies near it is not that far. -/
theorem floor_lt : num / den < 2 ^ (Nat.log2 units + 1) := by
  refine (Nat.div_lt_iff_lt_mul hden).2 ?_
  have hroom : (4 * units + 4 * stepOf units) * den ≤ 4 * 2 ^ (Nat.log2 units + 1) * den := by
    have := add_le_of_dvd hunits.step_dvd (stepOf_dvd_two_pow (Nat.le_succ _)) Nat.lt_log2_self
    exact Nat.mul_le_mul_right den (by omega)
  have hpositive : 0 < stepOf units * den := Nat.mul_pos (stepOf_pos _) hden
  have hhigh := h.high
  simp only [Nat.add_mul, Nat.mul_assoc] at hroom hhigh ⊢
  omega

variable (hpos : 0 < units) (hbelow : num < 2 ^ Nat.log2 units * den)

include hpos hbelow

/-- Only the first magnitude of a size has something near it that lies below the size. -/
theorem eq_two_pow : units = 2 ^ Nat.log2 units := by
  by_contra hne
  have hlt : 2 ^ Nat.log2 units < units := Nat.lt_of_le_of_ne (Nat.log2_self_le (Nat.ne_of_gt hpos)) (Ne.symm hne)
  have hroom : (4 * 2 ^ Nat.log2 units + 4 * stepOf units) * den ≤ 4 * units * den := by
    have := add_le_of_dvd (stepOf_dvd_two_pow (Nat.le_refl _)) hunits.step_dvd hlt
    exact Nat.mul_le_mul_right den (by omega)
  have hleast : (4 * units - 2 * stepOf units) * den ≤ 4 * num := by
    have hreach := reachBelow_le units
    exact (Nat.mul_le_mul_right den (by omega)).trans h.low
  have hstep := stepOf_le hunits hpos
  have hpositive : 0 < stepOf units * den := Nat.mul_pos (stepOf_pos _) hden
  simp only [Nat.add_mul, Nat.sub_mul, Nat.mul_assoc] at hroom hleast
  omega

theorem reachBelow_eq (hfine : 1 < stepOf units) : reachBelow units = stepOf units :=
  if_pos ⟨h.eq_two_pow hunits hden hpos hbelow, hfine⟩

/-- What lies near the first magnitude of a size and below it is of the size before. -/
theorem log2_floor (hfine : 1 < stepOf units) : Nat.log2 (num / den) + 1 = Nat.log2 units := by
  have hcoarse := h.reachBelow_eq hunits hden hpos hbelow hfine
  obtain ⟨e, he⟩ := Nat.exists_eq_add_of_le (le_log2_of_one_lt_stepOf hfine)
  have hstep : stepOf units = 2 ^ (e + 1) := by
    rw [stepOf, excess, precision, he, show 53 + e + 1 - 53 = e + 1 by omega]
  have hlog : Nat.log2 (num / den) = 52 + e := by
    refine log2_eq_of_bounds ((Nat.le_div_iff_mul_le hden).2 ?_) ?_
    · have hlow := h.low
      rw [hcoarse, hstep, h.eq_two_pow hunits hden hpos hbelow, he] at hlow
      have hpow : 4 * 2 ^ (52 + e) ≤ 4 * 2 ^ (53 + e) - 2 ^ (e + 1) := by
        have hsmaller : 2 ^ (e + 1) ≤ 2 ^ (52 + e) := Nat.pow_le_pow_right (by decide) (by omega)
        have hdouble : 2 ^ (53 + e) = 2 * 2 ^ (52 + e) := by rw [← Nat.pow_succ']; congr 1; omega
        omega
      have := (Nat.mul_le_mul_right den hpow).trans hlow
      rw [Nat.mul_assoc] at this
      omega
    · rw [show 52 + e + 1 = Nat.log2 units by omega]
      exact (Nat.div_lt_iff_lt_mul hden).2 hbelow
  omega

theorem stepOf_eq_two_mul (hfine : 1 < stepOf units) : stepOf units = 2 * stepOf (num / den) := by
  have hlog := h.log2_floor hunits hden hpos hbelow hfine
  have hlarge := le_log2_of_one_lt_stepOf hfine
  rw [stepOf, stepOf, excess, excess, precision, ← hlog, ← Nat.pow_succ', show
    Nat.log2 (num / den) + 1 + 1 - 53 = Nat.log2 (num / den) + 1 - 53 + 1 by omega]

end Near

/-- The whole part of what lies near a magnitude has the step of the magnitude, unless the magnitude begins
a size. -/
theorem stepOf_floor {units num den : Nat} (hunits : IsMagnitude units) (hpos : 0 < units) (hden : 0 < den)
    (h : Near units num den) :
    stepOf (num / den) = stepOf units ∨
      reachBelow units = stepOf units ∧ num ≤ units * den ∧ stepOf units = 2 * stepOf (num / den) := by
  rcases Nat.lt_or_ge num (2 ^ Nat.log2 units * den) with hbelow | habove
  · by_cases hfine : 1 < stepOf units
    · have hle : num ≤ units * den :=
        hbelow.le.trans (Nat.mul_le_mul_right den (Nat.log2_self_le (Nat.ne_of_gt hpos)))
      exact .inr ⟨h.reachBelow_eq hunits hden hpos hbelow hfine, hle,
        h.stepOf_eq_two_mul hunits hden hpos hbelow hfine⟩
    · -- the steps below are no finer, because there is none below one unit
      have hfloor : num / den ≤ units :=
        ((Nat.div_lt_iff_lt_mul hden).2 hbelow).le.trans (Nat.log2_self_le (Nat.ne_of_gt hpos))
      have hstep : stepOf (num / den) ≤ stepOf units := stepOf_mono hfloor
      have := stepOf_pos (num / den)
      exact .inl (by omega)
  · refine .inl (stepOf_eq_of_log2 ?_)
    exact log2_eq_of_bounds ((Nat.le_div_iff_mul_le hden).2 habove) (h.floor_lt hunits hden)

namespace Near

variable {units num den : Nat} (hunits : IsMagnitude units) (hden : 0 < den) (h : Near units num den)

include hunits h

/-- The distances of `Near` without differences. -/
theorem within (hpos : 0 < units) : 4 * (units * den) ≤ 4 * num + reachBelow units * den ∧
    4 * num ≤ 4 * (units * den) + 2 * (stepOf units * den) := by
  have hlow := h.low
  have hhigh := h.high
  have hreach := reachBelow_le units
  have hstep := stepOf_le hunits hpos
  rw [Nat.sub_mul, Nat.mul_assoc] at hlow
  simp only [Nat.add_mul, Nat.mul_assoc] at hhigh
  omega

include hden

/-- What is rounded in the step of a magnitude near it comes to the magnitude. -/
theorem nearestEven_mul_step (hpos : 0 < units) :
    nearestEven num (den * stepOf units) * stepOf units = units := by
  obtain ⟨k, hk⟩ := hunits.step_dvd
  have hquotient : units / stepOf units = k := Nat.div_eq_of_eq_mul_right (stepOf_pos _) hk
  have hunitsDen : k * (den * stepOf units) = units * den := by
    calc k * (den * stepOf units) = stepOf units * k * den := by ring
      _ = units * den := by rw [← hk]
  obtain ⟨hlow, hhigh⟩ := h.within hunits hpos
  have hreach := Nat.mul_le_mul_right den (reachBelow_le units)
  rw [Nat.mul_assoc] at hreach
  rw [nearestEven_eq (Nat.mul_pos hden (stepOf_pos _)), Nat.mul_comm, ← hk]
  · rw [hunitsDen, Nat.mul_comm den]
    omega
  · rw [hunitsDen, Nat.mul_comm den]
    omega
  · rw [hunitsDen, Nat.mul_comm den]
    intro htie
    have hbottom : (4 * units - reachBelow units) * den = 4 * (units * den) - reachBelow units * den := by
      rw [Nat.sub_mul, Nat.mul_assoc]
    have htop : (4 * units + 2 * stepOf units) * den = 4 * (units * den) + 2 * (stepOf units * den) := by
      simp only [Nat.add_mul, Nat.mul_assoc]
    rw [← hquotient]
    refine h.tie ?_
    rw [hbottom, htop]
    omega

/-- A magnitude that begins a size is also what comes of the finer step of the size before. -/
theorem nearestEven_mul_half (hpos : 0 < units) {fine : Nat} (hbelow : reachBelow units = stepOf units)
    (hle : num ≤ units * den) (hhalf : stepOf units = 2 * fine) : nearestEven num (den * fine) * fine = units := by
  obtain ⟨k, hk⟩ := hunits.step_dvd
  have hfine : stepOf units * den = 2 * (den * fine) := by
    rw [hhalf]
    ring
  have hunitsFine : 2 * k * fine = units := by
    calc 2 * k * fine = 2 * fine * k := by ring
      _ = units := by rw [← hhalf, ← hk]
  have hunitsDen : 2 * k * (den * fine) = units * den := by
    rw [← hunitsFine]
    ring
  have hstep : 0 < stepOf units * den := Nat.mul_pos (stepOf_pos _) hden
  obtain ⟨hlow, -⟩ := h.within hunits hpos
  rw [hbelow, hfine] at hlow
  have hnearest : nearestEven num (den * fine) = 2 * k := by
    refine nearestEven_eq (by omega) ?_ ?_ fun _ => Nat.mul_mod_right 2 k
    · rw [hunitsDen]
      omega
    · rw [hunitsDen]
      omega
  rw [hnearest, hunitsFine]

end Near

theorem ofUnits_of_near {units num den : Nat} (negative : Bool) (hunits : IsMagnitude units) (hpos : 0 < units)
    (hden : 0 < den) (h : Near units num den) : ofUnits negative num den = finite negative units := by
  have hnearest : nearestEven num (den * stepOf (num / den)) * stepOf (num / den) = units := by
    rcases stepOf_floor hunits hpos hden h with heq | ⟨hbelow, hle, hhalf⟩
    · rw [heq]
      exact h.nearestEven_mul_step hunits hden hpos
    · exact h.nearestEven_mul_half hunits hden hpos hbelow hle hhalf
  rw [ofUnits_eq, hnearest, if_neg (Nat.not_le.2 hunits.lt_overflow)]

end Double

end TripleIndex
