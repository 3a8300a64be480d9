import TripleIndex.Instant
import TripleIndex.Proofs.Numbers.Digits

/-!
Instants are small. The calendar ends with the year 9999, a time stays within its day and a zone within a
day of universal time, so every instant has few digits.
-/

namespace TripleIndex

variable {cs rest : List Char} {micros : Nat} {day : Int}

theorem foldl_digits_lt {ds : List Nat} (h : ∀ d ∈ ds, d < 10) (n : Nat) :
    ds.foldl (fun n d => 10 * n + d) n < (n + 1) * 10 ^ ds.length := by
  induction ds generalizing n with
  | nil => simp
  | cons d ds ih =>
    have hd := h d List.mem_cons_self
    refine Nat.lt_of_lt_of_le (ih (fun e he => h e (List.mem_cons_of_mem d he)) _) ?_
    rw [List.length_cons, Nat.pow_succ', ← Nat.mul_assoc]
    exact Nat.mul_le_mul_right _ (show 10 * n + d + 1 ≤ (n + 1) * 10 by omega)

theorem ofDigits_lt {ds : List Nat} (h : ∀ d ∈ ds, d < 10) : ofDigits ds < 10 ^ ds.length := by
  have := foldl_digits_lt h 0
  rwa [Nat.zero_add, Nat.one_mul] at this

theorem asciiDigit?_lt {c : Char} {d : Nat} (h : asciiDigit? c = some d) : d < 10 := by
  unfold asciiDigit? at h
  split at h
  · next hc =>
    simp only [Char.isDigit, Bool.and_eq_true, decide_eq_true_eq] at hc
    have hhigh : c.toNat ≤ 57 := hc.2
    cases h
    omega
  · cases h

theorem lt_of_mapM_asciiDigit? {ds : List Nat} (h : cs.mapM asciiDigit? = some ds) : ∀ d ∈ ds, d < 10 := by
  induction cs generalizing ds with
  | nil =>
    cases h
    simp
  | cons c cs ih =>
    rw [List.mapM_cons] at h
    obtain ⟨d, hd, h⟩ := Option.bind_eq_some_iff.1 h
    obtain ⟨rest, hrest, h⟩ := Option.bind_eq_some_iff.1 h
    cases h
    exact List.forall_mem_cons.2 ⟨asciiDigit?_lt hd, ih hrest⟩

theorem fixedDigits?_lt {count value : Nat} (h : fixedDigits? count cs = some (value, rest)) :
    value < 10 ^ count := by
  unfold fixedDigits? at h
  dsimp only at h
  cases hds : (cs.take count).mapM asciiDigit? with
  | none =>
    rw [hds] at h
    cases h
  | some ds =>
    rw [hds] at h
    obtain ⟨hlength, h⟩ := Option.ite_none_right_eq_some.1 h
    cases h
    rw [← hlength]
    exact ofDigits_lt (lt_of_mapM_asciiDigit? hds)

/-! ## Times -/

theorem readFractionMicros?_lt (h : readFractionMicros? cs = some micros) : micros < 10 ^ 6 := by
  obtain ⟨⟨value, rest⟩, hvalue, h⟩ := Option.bind_eq_some_iff.1 h
  have hmicros : micros = value * 10 ^ (6 - min 6 cs.length) := by
    dsimp only at h
    split at h
    · exact (Option.some.inj h).symm
    split at h
    · exact (Option.some.inj h).symm
    · cases h
  rw [hmicros]
  calc value * 10 ^ (6 - min 6 cs.length) < 10 ^ min 6 cs.length * 10 ^ (6 - min 6 cs.length) :=
        Nat.mul_lt_mul_of_pos_right (fixedDigits?_lt hvalue) (Nat.pow_pos (by decide))
    _ = 10 ^ 6 := by rw [← Nat.pow_add, Nat.add_sub_cancel' (Nat.min_le_left ..)]

theorem readClock?_lt {left : Nat} {format : ClockFormat} {parts : List Nat}
    (h : readClock? left format cs = some (parts, micros)) : micros < 10 ^ 6 := by
  -- only the last part has a fraction, and the parts before it leave it as it is
  induction left generalizing format cs parts with
  | zero =>
    obtain ⟨m, hm, heq⟩ := Option.map_eq_some_iff.1 h
    cases heq
    exact readFractionMicros?_lt hm
  | succ left ih =>
    have hmore : ∀ {format : ClockFormat} {cs : List Char} {value : Nat},
        (readClock? left format cs).map (fun x => (value :: x.1, x.2)) = some (parts, micros) → micros < 10 ^ 6 := by
      intro format cs value h
      obtain ⟨⟨more, m⟩, hm, heq⟩ := Option.map_eq_some_iff.1 h
      cases heq
      exact ih hm
    obtain ⟨⟨value, rest⟩, -, h⟩ := Option.bind_eq_some_iff.1 h
    dsimp only at h
    split at h
    · cases h
      decide
    · split at h
      · cases h
        decide
      · cases h
    · generalize (if format = .unknown then _ else _) = clock at h
      split at h
      · exact hmore h
      split at h
      · obtain ⟨m, hm, heq⟩ := Option.map_eq_some_iff.1 h
        cases heq
        exact readFractionMicros?_lt hm
      split at h
      · exact hmore h
      · cases h

theorem readTime?_lt (h : readTime? cs = some micros) : micros < 86400 * 10 ^ 6 := by
  unfold readTime? at h
  split at h
  · cases h
  obtain ⟨⟨parts, fraction⟩, hclock, h⟩ := Option.bind_eq_some_iff.1 h
  have hfraction := readClock?_lt hclock
  dsimp only at h
  split at h
  · next hparts =>
    simp only [Bool.and_eq_true, decide_eq_true_eq] at hparts
    cases h
    omega
  · cases h

/-! ## Days -/

/-- A day of the calendar, give or take. -/
def IsCalendarDay (day : Int) : Prop := day.natAbs < 4000000

theorem total_le {bound : Nat} {ns : List Nat} (h : ∀ n ∈ ns, n ≤ bound) : total ns ≤ bound * ns.length := by
  induction ns with
  | nil => exact Nat.le_refl 0
  | cons n ns ih =>
    have hn := h n List.mem_cons_self
    have hns := ih fun m hm => h m (List.mem_cons_of_mem n hm)
    rw [total, List.length_cons, Nat.mul_succ]
    omega

theorem daysOfMonth_le (year month : Nat) : daysOfMonth year month ≤ 31 := by
  unfold daysOfMonth
  split
  · split <;> decide
  split <;> decide

theorem isCalendarDay_epochDay {d : Date} (h : d.isValid = true) : IsCalendarDay d.epochDay := by
  simp only [Date.isValid, Bool.and_eq_true, decide_eq_true_eq] at h
  obtain ⟨⟨⟨⟨⟨hyear, hlast⟩, hmonth⟩, hdecember⟩, hday⟩, hlength⟩ := h
  have hdays := daysOfMonth_le d.year d.month
  have hmonths : Date.daysBeforeMonth d.year d.month ≤ 31 * (d.month - 1) := by
    have hall : ∀ n ∈ (List.range (d.month - 1)).map fun m => daysOfMonth d.year (m + 1), n ≤ 31 := by
      intro n hn
      obtain ⟨m, -, rfl⟩ := List.mem_map.1 hn
      exact daysOfMonth_le ..
    have := total_le hall
    rwa [List.length_map, List.length_range] at this
  unfold IsCalendarDay Date.epochDay Date.ordinal Date.daysBeforeYear Date.epochOrdinal
  dsimp only
  omega

theorem isCalendarDay_epochDayOfWeek? {year week weekday : Nat}
    (h : epochDayOfWeek? year week weekday = some day) : IsCalendarDay day := by
  have hlast : Date.ordinal ⟨9999, 12, 31⟩ = 3652059 := by decide
  unfold epochDayOfWeek? at h
  dsimp only at h
  generalize firstMonday year + _ = ordinal at h
  split at h
  · next hchecks =>
    simp only [Bool.and_eq_true, decide_eq_true_eq, hlast] at hchecks
    cases h
    unfold IsCalendarDay Date.epochOrdinal
    omega
  · cases h

theorem isCalendarDay_readMonthDay? {extended : Bool} {year : Nat}
    (h : readMonthDay? extended year cs = some day) : IsCalendarDay day := by
  obtain ⟨⟨month, rest⟩, -, h⟩ := Option.bind_eq_some_iff.1 h
  have hdate : ∀ cs : List Char, ((fixedDigits? 2 cs).bind fun x =>
      if (Date.isValid ⟨year, month, x.1⟩ && x.2.isEmpty) = true then some (Date.epochDay ⟨year, month, x.1⟩)
      else none) = some day → IsCalendarDay day := by
    intro cs h
    obtain ⟨⟨dayOfMonth, rest⟩, -, h⟩ := Option.bind_eq_some_iff.1 h
    obtain ⟨hvalid, h⟩ := Option.ite_none_right_eq_some.1 h
    cases h
    exact isCalendarDay_epochDay (Bool.and_eq_true_iff.1 hvalid).1
  dsimp only at h
  split at h
  · obtain ⟨rest, -, h⟩ := Option.bind_eq_some_iff.1 h
    exact hdate rest h
  · exact hdate rest h

theorem isCalendarDay_readWeekDay? {extended : Bool} {year : Nat}
    (h : readWeekDay? extended year cs = some day) : IsCalendarDay day := by
  obtain ⟨⟨week, rest⟩, -, h⟩ := Option.bind_eq_some_iff.1 h
  dsimp only at h
  split at h
  · exact isCalendarDay_epochDayOfWeek? h
  · split at h
    · cases h
    · obtain ⟨⟨weekday, rest⟩, -, h⟩ := Option.bind_eq_some_iff.1 h
      exact isCalendarDay_epochDayOfWeek? (Option.ite_none_right_eq_some.1 h).2

theorem isCalendarDay_readDay? (h : readDay? cs = some day) : IsCalendarDay day := by
  obtain ⟨⟨year, rest⟩, -, h⟩ := Option.bind_eq_some_iff.1 h
  dsimp only at h
  split at h
  · exact isCalendarDay_readWeekDay? h
  · exact isCalendarDay_readMonthDay? h
  · exact isCalendarDay_readWeekDay? h
  · exact isCalendarDay_readMonthDay? h

/-! ## Instants -/

/-- A time of day on a day of the calendar. -/
structure LocalTime.IsCalendarTime (t : LocalTime) : Prop where
  day : IsCalendarDay t.epochDay
  micros : t.micros < 86400 * 10 ^ 6

theorem isCalendarTime_readDateTime? {t : LocalTime} (h : readDateTime? cs = some t) : t.IsCalendarTime := by
  obtain ⟨day, hday, h⟩ := Option.bind_eq_some_iff.1 h
  split at h
  · cases h
    exact ⟨isCalendarDay_readDay? hday, show 0 < 86400 * 10 ^ 6 by decide⟩
  · obtain ⟨micros, hmicros, rfl⟩ := Option.map_eq_some_iff.1 h
    exact ⟨isCalendarDay_readDay? hday, readTime?_lt hmicros⟩

theorem isCalendarTime_readDate? {t : LocalTime} (h : readDate? cs = some t) : t.IsCalendarTime := by
  obtain ⟨year, -, h⟩ := Option.bind_eq_some_iff.1 h
  obtain ⟨-, h⟩ := Option.ite_none_right_eq_some.1 h
  dsimp only at h
  split at h
  · obtain ⟨⟨monthText, dayText⟩, -, h⟩ := Option.bind_eq_some_iff.1 h
    obtain ⟨month, -, h⟩ := Option.bind_eq_some_iff.1 h
    obtain ⟨dayOfMonth, -, h⟩ := Option.bind_eq_some_iff.1 h
    obtain ⟨hvalid, h⟩ := Option.ite_none_right_eq_some.1 h
    cases h
    exact ⟨isCalendarDay_epochDay hvalid, show 0 < 86400 * 10 ^ 6 by decide⟩
  · cases h

theorem LocalTime.IsCalendarTime.natAbs_lt {t : LocalTime} (h : t.IsCalendarTime) {zone : Int}
    (hzone : zone.natAbs < 86400) : (t.epochMillis zone).natAbs < 10 ^ 16 := by
  obtain ⟨hday, hmicros⟩ := h
  unfold IsCalendarDay at hday
  unfold LocalTime.epochMillis microsOfDay
  rw [Int.fdiv_eq_ediv_of_nonneg _ (by decide)]
  omega

theorem isWritableInteger_epochMillis {lexical : String} {n : Int} (h : epochMillis lexical = .ok n) :
    isWritableInteger n = true := by
  have hsmall : n.natAbs < 10 ^ 16 := by
    unfold epochMillis at h
    split at h
    next text zone _ =>
    split at h
    · cases h
    next hzone =>
    split at h
    · split at h
      · next t ht =>
        cases h
        exact (isCalendarTime_readDateTime? ht).natAbs_lt (Nat.not_le.1 hzone)
      · cases h
    · split at h
      · next t ht =>
        cases h
        exact (isCalendarTime_readDate? ht).natAbs_lt (Nat.not_le.1 hzone)
      · cases h
  refine isWritableInteger_iff.2 (Nat.lt_of_lt_of_le hsmall (Nat.pow_le_pow_right (by decide) ?_))
  decide

end TripleIndex
