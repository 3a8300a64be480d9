import Mathlib.Data.Rat.Floor
import Mathlib.Tactic.Linarith
import TripleIndex.Proofs.Dates.Written

/-!
Dates are encoded exactly. The instant of a form is a rational number of seconds, in which every digit of the fraction
counts; its key is that number in milliseconds, rounded down. What is cut off after six places of a second is less than
a microsecond, so nothing of it shows in the key.
-/

namespace TripleIndex

/-- The part of a second that digits after the point stand for. -/
def fractionOf : List (Fin 10) → ℚ
  | [] => 0
  | d :: ds => (d.val + fractionOf ds) / 10

def Clock.seconds (c : Clock) : ℚ := 3600 * c.hour + 60 * c.minute + c.second + fractionOf c.fraction

/-- Seconds from the beginning of 1970 in universal time to the instant of a form. -/
def DateForm.instant (f : DateForm) : ℚ :=
  86400 * Gregorian.dayNumber f.date + (f.clock.map Clock.seconds).getD 0 - f.zone.seconds

variable {f g : DateForm}

theorem fractionOf_bounds (ds : List (Fin 10)) : 0 ≤ fractionOf ds ∧ fractionOf ds < 1 := by
  induction ds with
  | nil => exact ⟨le_rfl, one_pos⟩
  | cons d ds ih =>
    obtain ⟨hnonneg, hlt⟩ := ih
    have hdigit : (d.val : ℚ) ≤ 9 := by exact_mod_cast Nat.le_of_lt_succ d.isLt
    have hpos : (0 : ℚ) ≤ d.val := Nat.cast_nonneg _
    rw [fractionOf]
    constructor
    · positivity
    · linarith

theorem figuresValue_cons (d : Fin 10) (ds : List (Fin 10)) :
    figuresValue (d :: ds) = d.val * 10 ^ ds.length + figuresValue ds := by
  have hdigit : figuresValue [d] = d.val := by simp [figuresValue, ofDigits]
  rw [← List.singleton_append, figuresValue_append, hdigit]

theorem pow_mul_fractionOf (count : Nat) (ds : List (Fin 10)) :
    10 ^ count * fractionOf ds = figuresValue (decimalPlaces count ds) + fractionOf (ds.drop count) := by
  induction count generalizing ds with
  | zero => simp [decimalPlaces, figuresValue, ofDigits]
  | succ count ih =>
    cases ds with
    | nil =>
      have hzeros := ih []
      rw [decimalPlaces, figuresValue_cons, List.drop_nil]
      simpa [fractionOf] using hzeros
    | cons d ds =>
      have hrest := ih ds
      rw [decimalPlaces, figuresValue_cons, length_decimalPlaces, List.drop_succ_cons, fractionOf, pow_succ]
      push_cast
      linarith

/-- A clock counts the whole microseconds of its time. -/
theorem Clock.exists_seconds_eq (c : Clock) : ∃ r : ℚ, 0 ≤ r ∧ r < 1 ∧ 10 ^ 6 * c.seconds = c.micros + r := by
  obtain ⟨hnonneg, hlt⟩ := fractionOf_bounds (c.fraction.drop 6)
  refine ⟨_, hnonneg, hlt, ?_⟩
  have hfraction := pow_mul_fractionOf 6 c.fraction
  rw [Clock.seconds, Clock.micros, mul_add, hfraction]
  push_cast
  ring

theorem floor_micros (f : DateForm) : ⌊10 ^ 6 * f.instant⌋ =
    Gregorian.dayNumber f.date * microsOfDay + f.micros - f.zone.seconds * 1000000 := by
  have hclock : ∃ r : ℚ, 0 ≤ r ∧ r < 1 ∧ 10 ^ 6 * (f.clock.map Clock.seconds).getD 0 = f.micros + r := by
    unfold DateForm.micros
    cases f.clock with
    | none => exact ⟨0, le_rfl, one_pos, by simp⟩
    | some c => exact c.exists_seconds_eq
  obtain ⟨r, hnonneg, hlt, hmicros⟩ := hclock
  have hinstant : 10 ^ 6 * f.instant =
      (Gregorian.dayNumber f.date * microsOfDay + f.micros - f.zone.seconds * 1000000 : Int) + r := by
    unfold DateForm.instant microsOfDay
    push_cast
    linarith
  rw [hinstant, Int.floor_intCast_add, Int.floor_eq_zero_iff.2 ⟨hnonneg, hlt⟩, add_zero]

/-- Microseconds are rounded down to milliseconds, and the instant with them. -/
theorem epochMillis_eq_floor (hf : f.IsValid) :
    LocalTime.epochMillis ⟨f.date.epochDay, f.micros⟩ f.zone.seconds = ⌊1000 * f.instant⌋ := by
  have hmillis : 1000 * f.instant = 10 ^ 6 * f.instant / (1000 : Nat) := by
    push_cast
    ring
  rw [hmillis, Int.floor_div_natCast, floor_micros, LocalTime.epochMillis, Gregorian.epochDay_eq hf.date,
    Int.fdiv_eq_ediv_of_nonneg _ (by decide)]
  rfl

/-- The key of a form is its instant in milliseconds, rounded down. So keys are in the order of the instants, and one
instant has one key, whatever zone it is written in. -/
theorem epochMillis_text (hf : f.IsValid) (hg : g.IsValid) : epochMillis f.text = .ok ⌊1000 * f.instant⌋ ∧
    ∃ m n, epochMillis f.text = .ok m ∧ epochMillis g.text = .ok n ∧
      (f.instant ≤ g.instant → m ≤ n) ∧ (f.instant = g.instant → m = n) := by
  have hkey : ∀ {f : DateForm}, f.IsValid → epochMillis f.text = .ok ⌊1000 * f.instant⌋ := by
    intro f hf
    rw [epochMillis_text_eq hf, epochMillis_eq_floor hf]
  refine ⟨hkey hf, _, _, hkey hf, hkey hg, fun hle => ?_, fun heq => ?_⟩
  · exact Int.floor_le_floor (mul_le_mul_of_nonneg_left hle (by norm_num))
  · rw [heq]

/-- The last tenth of a microsecond before 1970, in universal time and where the new year has come five and a half
hours earlier. -/
def lastMoment : DateForm := ⟨⟨1969, 12, 31⟩, some ⟨23, 59, 59, figures 7 9999999⟩, .universal⟩

def newYear : DateForm := ⟨⟨1970, 1, 1⟩, some ⟨5, 29, 59, figures 7 9999999⟩, .ahead 5 30⟩

theorem epochMillis_text_lastMoment : lastMoment.text = "1969-12-31T23:59:59.9999999Z" ∧
    newYear.text = "1970-01-01T05:29:59.9999999+05:30" ∧ lastMoment.IsValid ∧ newYear.IsValid ∧
    epochMillis lastMoment.text = .ok ⌊1000 * lastMoment.instant⌋ ∧ lastMoment.instant = newYear.instant ∧
    epochMillis lastMoment.text = epochMillis newYear.text := by
  have hlast : lastMoment.IsValid := by
    refine ⟨⟨by decide, by decide, by decide⟩, ?_, trivial⟩
    rintro c ⟨⟩
    exact ⟨by decide, by decide, by decide⟩
  have hnew : newYear.IsValid := by
    refine ⟨⟨by decide, by decide, by decide⟩, ?_, by decide, by decide⟩
    rintro c ⟨⟩
    exact ⟨by decide, by decide, by decide⟩
  have hday : Gregorian.dayNumber lastMoment.date = -1 := by
    rw [← Gregorian.epochDay_eq hlast.date]
    rfl
  have hday' : Gregorian.dayNumber newYear.date = 0 := by
    rw [← Gregorian.epochDay_eq hnew.date]
    rfl
  have hinstant : lastMoment.instant = newYear.instant := by
    rw [DateForm.instant, DateForm.instant, hday, hday']
    simp only [lastMoment, newYear, Clock.seconds, Zone.seconds, Option.map_some, Option.getD_some]
    push_cast
    ring
  obtain ⟨hkey, m, n, hm, hn, -, heq⟩ := epochMillis_text hlast hnew
  exact ⟨rfl, rfl, hlast, hnew, hkey, hinstant, by rw [hm, hn, heq hinstant]⟩

end TripleIndex
