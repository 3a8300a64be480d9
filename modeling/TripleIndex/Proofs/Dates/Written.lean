import TripleIndex.Proofs.Dates.Figures
import TripleIndex.Proofs.Dates.Gregorian
import TripleIndex.Proofs.Trimming

/-!
Dates and times as they are written: a date of four, two and two digits, with or without a time of day after it, and
with the zone at the end if there is one. Each part is read back from where it stands, the fraction of a second to six
places.
-/

namespace TripleIndex

/-- A time of day. The fraction of the second is a list of digits, none if it is not there. -/
structure Clock where
  hour : Nat
  minute : Nat
  second : Nat
  fraction : List (Fin 10)
  deriving DecidableEq, Repr

/-- The zone that is named, if any: universal time or one that is ahead of it or behind. -/
inductive Zone where
  | unnamed
  | universal
  | ahead (hours minutes : Nat)
  | behind (hours minutes : Nat)
  deriving DecidableEq, Repr

/-- A date, with or without a time of day. -/
structure DateForm where
  date : Date
  clock : Option Clock
  zone : Zone
  deriving DecidableEq, Repr

structure Clock.IsValid (c : Clock) : Prop where
  hour : c.hour ≤ 23
  minute : c.minute ≤ 59
  second : c.second ≤ 59

/-- Two digits are enough for the hours and the minutes of a zone, and together they are less than a day. -/
def Zone.IsValid : Zone → Prop
  | unnamed | universal => True
  | ahead hours minutes | behind hours minutes => minutes ≤ 99 ∧ 60 * hours + minutes < 1440

/-- Seconds that the zone is ahead of universal time. -/
def Zone.seconds : Zone → Int
  | unnamed | universal => 0
  | ahead hours minutes => 3600 * hours + 60 * minutes
  | behind hours minutes => -(3600 * hours + 60 * minutes)

structure DateForm.IsValid (f : DateForm) : Prop where
  date : Gregorian.IsDate f.date
  clock : ∀ c ∈ f.clock, c.IsValid
  zone : f.zone.IsValid

/-! ## How they are written -/

def Date.chars (d : Date) : List Char := padded 4 d.year ++ '-' :: (padded 2 d.month ++ '-' :: padded 2 d.day)

def fractionChars (fraction : List (Fin 10)) : List Char :=
  if fraction = [] then [] else '.' :: fraction.map figure

def Clock.wholeChars (c : Clock) : List Char :=
  padded 2 c.hour ++ ':' :: (padded 2 c.minute ++ ':' :: padded 2 c.second)

def Clock.chars (c : Clock) : List Char := c.wholeChars ++ fractionChars c.fraction

def Zone.chars : Zone → List Char
  | unnamed => []
  | universal => ['Z']
  | ahead hours minutes => '+' :: (padded 2 hours ++ ':' :: padded 2 minutes)
  | behind hours minutes => '-' :: (padded 2 hours ++ ':' :: padded 2 minutes)

namespace DateForm

/-- All but the zone. -/
def localChars (f : DateForm) : List Char :=
  f.date.chars ++ (f.clock.map fun c => 'T' :: c.chars).getD []

def text (f : DateForm) : String := String.ofList (f.localChars ++ f.zone.chars)

end DateForm

variable {c : Clock} {d : Date} {z : Zone} {f : DateForm}

/-! ## Which characters there are -/

theorem forall_mem_padded {P : Char → Prop} (h : ∀ d, P (figure d)) {count n : Nat} : ∀ c ∈ padded count n, P c :=
  List.forall_mem_map.2 fun d _ => h d

theorem forall_mem_dateChars {P : Char → Prop} (h : ∀ d, P (figure d)) (hhyphen : P '-') : ∀ c ∈ d.chars, P c :=
  List.forall_mem_append.2 ⟨forall_mem_padded h, List.forall_mem_cons.2 ⟨hhyphen,
    List.forall_mem_append.2 ⟨forall_mem_padded h, List.forall_mem_cons.2 ⟨hhyphen, forall_mem_padded h⟩⟩⟩⟩

theorem forall_mem_clockChars {P : Char → Prop} (h : ∀ d, P (figure d)) (hcolon : P ':') (hpoint : P '.') :
    ∀ x ∈ c.chars, P x := by
  have hfraction : ∀ x ∈ fractionChars c.fraction, P x := by
    unfold fractionChars
    split
    · exact nofun
    · exact List.forall_mem_cons.2 ⟨hpoint, List.forall_mem_map.2 fun d _ => h d⟩
  have hwhole : ∀ x ∈ c.wholeChars, P x :=
    List.forall_mem_append.2 ⟨forall_mem_padded h, List.forall_mem_cons.2 ⟨hcolon,
      List.forall_mem_append.2 ⟨forall_mem_padded h, List.forall_mem_cons.2 ⟨hcolon, forall_mem_padded h⟩⟩⟩⟩
  exact List.forall_mem_append.2 ⟨hwhole, hfraction⟩

theorem isBlank_figure (d : Fin 10) : isBlank (figure d) = false := by
  decide +revert

theorem trim_text (f : DateForm) : trim f.text.toList = f.localChars ++ f.zone.chars := by
  rw [DateForm.text, String.toList_ofList]
  refine trimWhere_of_forall (List.forall_mem_append.2 ⟨List.forall_mem_append.2 ⟨?_, ?_⟩, ?_⟩)
  · exact forall_mem_dateChars isBlank_figure (by decide)
  · cases f.clock with
    | none => exact nofun
    | some c => exact List.forall_mem_cons.2 ⟨by decide, forall_mem_clockChars isBlank_figure (by decide) (by decide)⟩
  · have hoffset : ∀ hours minutes, ∀ x ∈ padded 2 hours ++ ':' :: padded 2 minutes, isBlank x = false :=
      fun hours minutes => List.forall_mem_append.2 ⟨forall_mem_padded isBlank_figure,
        List.forall_mem_cons.2 ⟨by decide, forall_mem_padded isBlank_figure⟩⟩
    cases f.zone with
    | unnamed => exact nofun
    | universal => exact List.forall_mem_singleton.2 (by decide)
    | ahead hours minutes => exact List.forall_mem_cons.2 ⟨by decide, hoffset hours minutes⟩
    | behind hours minutes => exact List.forall_mem_cons.2 ⟨by decide, hoffset hours minutes⟩

theorem contains_localChars (f : DateForm) : f.localChars.contains 'T' = f.clock.isSome := by
  unfold DateForm.localChars
  cases f.clock with
  | none =>
    have hnone : 'T' ∉ f.date.chars := fun hmem =>
      forall_mem_dateChars (P := (· ≠ 'T')) (figure_ne (by decide)) (by decide) 'T' hmem rfl
    simpa using hnone
  | some c => simp

/-! ## Zones -/

theorem padded_two (n : Nat) : padded 2 n = [figure (Fin.ofNat 10 (n / 10)), figure (Fin.ofNat 10 n)] := rfl

theorem pair?_padded {n : Nat} (h : n ≤ 99) :
    pair? (figure (Fin.ofNat 10 (n / 10))) (figure (Fin.ofNat 10 n)) = some n := by
  have hvalue : 10 * (n / 10 % 10) + n % 10 = n := by omega
  rw [pair?, digit?_figure, digit?_figure]
  exact congrArg some hvalue

theorem splitZone_reverse {sign : Char} {cs rest : List Char} {hours minutes : Nat} (hhours : hours ≤ 99)
    (hminutes : minutes ≤ 99) (h : cs.reverse = (sign :: (padded 2 hours ++ ':' :: padded 2 minutes)).reverse ++ rest) :
    splitZone cs =
      let seconds : Int := 3600 * hours + 60 * minutes
      if sign = '+' then (rest.reverse, seconds) else if sign = '-' then (rest.reverse, -seconds) else (cs, 0) := by
  have hreverse : cs.reverse = figure (Fin.ofNat 10 minutes) :: figure (Fin.ofNat 10 (minutes / 10)) :: ':' ::
      figure (Fin.ofNat 10 hours) :: figure (Fin.ofNat 10 (hours / 10)) :: sign :: rest := by
    simp [h, padded_two]
  unfold splitZone
  rw [hreverse]
  split
  · next heq => exact absurd (List.cons.inj heq).1 (figure_ne (by decide) _)
  · next heq =>
    simp only [List.cons.injEq] at heq
    obtain ⟨rfl, rfl, -, rfl, rfl, rfl, rfl⟩ := heq
    rw [pair?_padded hhours, pair?_padded hminutes]
  · next hno => exact absurd rfl (hno _ _ _ _ _ _)

/-- A text with no colon in the third place from its end names no zone, unless it ends with a `Z`. -/
theorem splitZone_of_third {a b c : Char} {cs rest : List Char} (h : cs.reverse = a :: b :: c :: rest) (ha : a ≠ 'Z')
    (hc : c ≠ ':') : splitZone cs = (cs, 0) := by
  unfold splitZone
  rw [h]
  split
  · next heq => exact absurd (List.cons.inj heq).1 ha
  · next heq =>
    simp only [List.cons.injEq] at heq
    exact absurd heq.2.2.1 hc
  · rfl

theorem splitZone_localChars (hf : ∀ c ∈ f.clock, c.IsValid) : splitZone f.localChars = (f.localChars, 0) := by
  unfold DateForm.localChars
  cases hclock : f.clock with
  | none =>
    have hreverse : (f.date.chars ++ []).reverse = figure (Fin.ofNat 10 f.date.day) ::
        figure (Fin.ofNat 10 (f.date.day / 10)) :: '-' ::
          (padded 4 f.date.year ++ '-' :: padded 2 f.date.month).reverse := by
      simp [Date.chars, padded_two]
    exact splitZone_of_third hreverse (figure_ne (by decide) _) (by decide)
  | some c =>
    have hvalid := hf c hclock
    by_cases hfraction : c.fraction = []
    · have hreverse : (f.date.chars ++ 'T' :: c.chars).reverse =
          (':' :: (padded 2 c.minute ++ ':' :: padded 2 c.second)).reverse ++
            (f.date.chars ++ 'T' :: padded 2 c.hour).reverse := by
        simp [Clock.chars, Clock.wholeChars, fractionChars, hfraction]
      exact splitZone_reverse (hvalid.minute.trans (by decide)) (hvalid.second.trans (by decide)) hreverse
    · obtain ⟨last, before, hlast⟩ := List.exists_cons_of_ne_nil (List.reverse_ne_nil_iff.2 hfraction)
      let front := (f.date.chars ++ 'T' :: (padded 2 c.hour ++ ':' :: (padded 2 c.minute ++ [':']))).reverse
      have hreverse : (f.date.chars ++ 'T' :: c.chars).reverse = figure last :: (before.map figure ++ '.' ::
          figure (Fin.ofNat 10 c.second) :: figure (Fin.ofNat 10 (c.second / 10)) :: front) := by
        rw [← List.cons_append, ← List.map_cons, ← hlast]
        simp [Clock.chars, Clock.wholeChars, fractionChars, hfraction, padded_two, front]
      have hletter : figure last ≠ 'Z' := figure_ne (by decide) last
      -- the third character from the end is a digit or the point
      match before with
      | [] => exact splitZone_of_third hreverse hletter (figure_ne (by decide) _)
      | [_] => exact splitZone_of_third hreverse hletter (by decide)
      | _ :: d :: _ => exact splitZone_of_third hreverse hletter (figure_ne (by decide) d)

theorem splitZone_text (hf : f.IsValid) :
    splitZone (f.localChars ++ f.zone.chars) = (f.localChars, f.zone.seconds) := by
  have hz := hf.zone
  have hhours : ∀ {hours minutes : Nat}, minutes ≤ 99 ∧ 60 * hours + minutes < 1440 → hours ≤ 99 := by omega
  cases hzone : f.zone with
  | unnamed =>
    rw [Zone.chars, List.append_nil]
    exact splitZone_localChars hf.clock
  | universal =>
    have hreverse : (f.localChars ++ ['Z']).reverse = 'Z' :: f.localChars.reverse := by simp
    rw [Zone.chars, splitZone, hreverse]
    simp [Zone.seconds]
  | ahead hours minutes =>
    rw [hzone] at hz
    rw [Zone.chars, splitZone_reverse (hhours hz) hz.1 List.reverse_append]
    simp [Zone.seconds]
  | behind hours minutes =>
    rw [hzone] at hz
    rw [Zone.chars, splitZone_reverse (hhours hz) hz.1 List.reverse_append]
    simp [Zone.seconds]

/-! ## Dates -/

theorem readMonth?_padded {month : Nat} (h : 1 ≤ month ∧ month ≤ 12) : readMonth? (padded 2 month) = some month := by
  have hall : ∀ month < 13, 1 ≤ month → readMonth? (padded 2 month) = some month := by decide
  exact hall month (by omega) h.1

theorem readDayOfMonth?_padded {day : Nat} (h : 1 ≤ day ∧ day ≤ 31) :
    readDayOfMonth? (padded 2 day) = some day := by
  have hall : ∀ day < 32, 1 ≤ day → readDayOfMonth? (padded 2 day) = some day := by decide
  exact hall day (by omega) h.1

theorem day_le (hd : Gregorian.IsDate d) : d.day ≤ 31 := by
  refine hd.day.2.trans ?_
  rw [← Gregorian.daysOfMonth_eq hd.month.1 hd.month.2]
  exact daysOfMonth_le ..

theorem splitAtHyphen?_padded (month day : Nat) :
    readDate?.splitAtHyphen? (padded 2 month ++ '-' :: padded 2 day) = some (padded 2 month, padded 2 day) := by
  have hkeep : ∀ c ∈ padded 2 month, decide (c ≠ '-') = true :=
    forall_mem_padded fun d => decide_eq_true (figure_ne (by decide) d)
  rw [readDate?.splitAtHyphen?, List.dropWhile_append_of_pos hkeep, List.takeWhile_append_of_pos hkeep]
  simp

theorem take_chars (d : Date) : d.chars.take 4 = padded 4 d.year :=
  List.take_left' (length_padded ..)

theorem drop_chars (d : Date) : d.chars.drop 4 = '-' :: (padded 2 d.month ++ '-' :: padded 2 d.day) :=
  List.drop_left' (length_padded ..)

theorem readDate?_chars (hd : Gregorian.IsDate d) : readDate? d.chars = some ⟨d.epochDay, 0⟩ := by
  have hyear : figuresValue (figures 4 d.year) = d.year :=
    figuresValue_figures (Nat.lt_of_le_of_lt hd.year.2 (by decide))
  unfold readDate?
  rw [take_chars, drop_chars, padded, mapM_digit?_figure]
  dsimp only [Option.bind_eq_bind, Option.bind_some]
  rw [if_pos (by rw [List.length_map, length_figures])]
  split
  · next heq =>
    rw [← (List.cons.inj heq).2, splitAtHyphen?_padded, Option.bind_some, readMonth?_padded hd.month, Option.bind_some,
      readDayOfMonth?_padded ⟨hd.day.1, day_le hd⟩, Option.bind_some, ← figuresValue, hyear]
    exact if_pos (Gregorian.isValid_iff.2 hd)
  · next hno => exact absurd rfl (hno _)

theorem readDay?_chars (hd : Gregorian.IsDate d) : readDay? d.chars = some d.epochDay := by
  have hyear : d.year < 10 ^ 4 := Nat.lt_of_le_of_lt hd.year.2 (by decide)
  have hmonth : d.month < 10 ^ 2 := Nat.lt_of_le_of_lt hd.month.2 (by decide)
  have hday : d.day < 10 ^ 2 := Nat.lt_of_le_of_lt (day_le hd) (by decide)
  have hmonthDay : readMonthDay? true d.year (padded 2 d.month ++ '-' :: padded 2 d.day) = some d.epochDay := by
    unfold readMonthDay?
    rw [fixedDigits?_padded hmonth]
    have hread := fixedDigits?_padded hday []
    rw [List.append_nil] at hread
    simp [hread, Gregorian.isValid_iff.2 hd]
  unfold readDay?
  rw [Date.chars, fixedDigits?_padded hyear]
  dsimp only [Option.bind_eq_bind, Option.bind_some]
  split
  · next heq =>
    rw [padded_two] at heq
    exact absurd (List.cons.inj (List.cons.inj heq).2).1 (figure_ne (by decide) _)
  · next heq =>
    rw [← (List.cons.inj heq).2]
    exact hmonthDay
  · next heq => cases (List.cons.inj heq).1
  · next hno _ => exact absurd rfl (hno _)

/-! ## Times of day -/

theorem readClock?_colon {left n : Nat} {format : ClockFormat} {rest : List Char} (hformat : format ≠ .basic)
    (hn : n ≤ 99) (hrest : rest ≠ []) : readClock? (left + 1) format (padded 2 n ++ ':' :: rest) =
      (readClock? left .extended rest).map fun x => (n :: x.1, x.2) := by
  obtain ⟨c, tail, rfl⟩ := List.exists_cons_of_ne_nil hrest
  have hextended : (if format = .unknown then if ':' = ':' then ClockFormat.extended else .basic else format) =
      .extended := by
    cases format with
    | basic => exact absurd rfl hformat
    | _ => rfl
  rw [readClock?, fixedDigits?_padded (Nat.lt_succ_of_le hn)]
  dsimp only [Option.bind_eq_bind, Option.bind_some]
  rw [hextended]
  simp

theorem readFractionMicros?_figures {fraction : List (Fin 10)} (h : fraction.length = 6) :
    readFractionMicros? (fraction.map figure) = some (figuresValue fraction) := by
  have hread := fixedDigits?_figures fraction []
  rw [List.append_nil, h] at hread
  rw [readFractionMicros?, List.length_map, h, Nat.min_self, hread]
  simp

theorem readClock?_seconds {left n : Nat} {fraction : List (Fin 10)} (hn : n ≤ 99)
    (hfraction : fraction = [] ∨ fraction.length = 6) :
    readClock? (left + 1) .extended (padded 2 n ++ fractionChars fraction) = some ([n], figuresValue fraction) := by
  rw [readClock?, fixedDigits?_padded (Nat.lt_succ_of_le hn)]
  dsimp only [Option.bind_eq_bind, Option.bind_some]
  rcases hfraction with rfl | hlength
  · rfl
  · obtain ⟨d, e, ds, rfl⟩ : ∃ d e ds, fraction = d :: e :: ds := by
      match fraction, hlength with
      | d :: e :: ds, _ => exact ⟨d, e, ds, rfl⟩
    have hread := readFractionMicros?_figures hlength
    rw [fractionChars, if_neg (List.cons_ne_nil _ _)]
    simp only [List.map_cons] at hread ⊢
    simp [hread]

theorem readTime?_chars (hc : c.IsValid) (hfraction : c.fraction = [] ∨ c.fraction.length = 6) :
    readTime? c.chars =
      some ((3600 * c.hour + 60 * c.minute + c.second) * 1000000 + figuresValue c.fraction) := by
  obtain ⟨hhour, hminute, hsecond⟩ := hc
  have hclock : readClock? 3 .unknown c.chars = some ([c.hour, c.minute, c.second], figuresValue c.fraction) := by
    have hchars : c.chars =
        padded 2 c.hour ++ ':' :: (padded 2 c.minute ++ ':' :: (padded 2 c.second ++ fractionChars c.fraction)) := by
      simp [Clock.chars, Clock.wholeChars]
    rw [hchars, readClock?_colon (by decide) (hhour.trans (by decide)) (by simp [padded_two]),
      readClock?_colon (by decide) (hminute.trans (by decide)) (by simp [padded_two]),
      readClock?_seconds (hsecond.trans (by decide)) hfraction]
    rfl
  have hzone : (c.chars.any fun x => x = '+' || x = '-' || x = 'Z') = false := by
    rw [List.any_eq_false]
    refine forall_mem_clockChars (fun d => ?_) (by decide) (by decide)
    have hne : ∀ x, x.isDigit = false → figure d ≠ x := fun x hx => figure_ne hx d
    simp [hne]
  unfold readTime?
  rw [hzone, hclock, if_neg (by decide)]
  simp [hhour, hminute, hsecond]

/-! ## Fractions of a second -/

/-- The fraction to six places. -/
def Clock.cut (c : Clock) : Clock :=
  if c.fraction = [] then c else { c with fraction := decimalPlaces 6 c.fraction }

/-- A text that ends with a point and some digits keeps six of them. -/
theorem sixPlaces_fraction (front : List Char) {fraction : List (Fin 10)} (hfraction : fraction ≠ []) :
    sixPlaces (front ++ fractionChars fraction) = front ++ fractionChars (decimalPlaces 6 fraction) := by
  obtain ⟨last, before, hlast⟩ := List.exists_cons_of_ne_nil (List.reverse_ne_nil_iff.2 hfraction)
  have hdigits : ∀ c ∈ before.map figure, isDecimalDigit c = true :=
    List.forall_mem_map.2 fun d _ => isDecimalDigit_figure d
  have hpoint : ¬ isDecimalDigit '.' = true := by decide
  have hdrop : (before.map figure ++ '.' :: front.reverse).dropWhile isDecimalDigit = '.' :: front.reverse := by
    rw [List.dropWhile_append_of_pos hdigits, List.dropWhile_cons_of_neg hpoint]
  have htake : (before.map figure ++ '.' :: front.reverse).takeWhile isDecimalDigit = before.map figure := by
    rw [List.takeWhile_append_of_pos hdigits, List.takeWhile_cons_of_neg hpoint, List.append_nil]
  have hforward : (before.map figure).reverse ++ [figure last] = fraction.map figure := by
    rw [← List.reverse_reverse fraction, hlast]
    simp
  have hreverse : (front ++ fractionChars fraction).reverse =
      figure last :: (before.map figure ++ '.' :: front.reverse) := by
    rw [fractionChars, if_neg hfraction, ← hforward]
    simp
  have hlength : 5 - before.length = 6 - fraction.length := by
    have := congrArg List.length hlast
    rw [List.length_reverse, List.length_cons] at this
    omega
  have hline : figure last ≠ '\n' := figure_ne (by decide) last
  have hsix : sixPlaces (front ++ fractionChars fraction) = front ++ '.' ::
      (((before.map figure).reverse ++ [figure last]).take 6 ++ List.replicate (5 - before.length) '0') := by
    unfold sixPlaces
    rw [hreverse]
    simp [hline, isDecimalDigit_figure, hdrop, htake]
  have hplaces : decimalPlaces 6 fraction ≠ [] := List.ne_nil_of_length_pos (by rw [length_decimalPlaces]; decide)
  rw [hsix, hforward, hlength, take_append_replicate]
  exact congrArg (front ++ ·) (if_neg hplaces).symm

theorem sixPlaces_chars (front : List Char) (c : Clock) : sixPlaces (front ++ c.chars) = front ++ c.cut.chars := by
  unfold Clock.cut
  split
  · next hfraction =>
    have hreverse : (front ++ c.chars).reverse = figure (Fin.ofNat 10 c.second) ::
        figure (Fin.ofNat 10 (c.second / 10)) :: ':' ::
          (front ++ padded 2 c.hour ++ ':' :: padded 2 c.minute).reverse := by
      simp [Clock.chars, Clock.wholeChars, fractionChars, hfraction, padded_two]
    have hline : ∀ d, figure d ≠ '\n' := figure_ne (by decide)
    have hcolon : isDecimalDigit ':' = false := by decide
    unfold sixPlaces
    rw [hreverse]
    simp [hline, isDecimalDigit_figure, hcolon]
  · next hfraction =>
    show sixPlaces (front ++ (c.wholeChars ++ _)) = front ++ (c.wholeChars ++ _)
    rw [← List.append_assoc, sixPlaces_fraction _ hfraction, List.append_assoc]

theorem cut_fraction (c : Clock) : c.cut.fraction = [] ∨ c.cut.fraction.length = 6 := by
  unfold Clock.cut
  split
  · next hfraction => exact .inl hfraction
  · exact .inr (length_decimalPlaces ..)

/-! ## Dates and times together -/

/-- Microseconds since midnight, those of the fraction cut off after six places. -/
def Clock.micros (c : Clock) : Nat :=
  (3600 * c.hour + 60 * c.minute + c.second) * 1000000 + figuresValue (decimalPlaces 6 c.fraction)

theorem readTime?_cut (hc : c.IsValid) : readTime? c.cut.chars = some c.micros := by
  have hvalid : c.cut.IsValid := by
    unfold Clock.cut
    split
    · exact hc
    · exact ⟨hc.hour, hc.minute, hc.second⟩
  rw [readTime?_chars hvalid (cut_fraction c), Clock.micros]
  unfold Clock.cut
  split
  · next hfraction => rw [hfraction]; rfl
  · rfl

theorem length_dateChars (d : Date) : d.chars.length = 10 := by
  simp [Date.chars, length_padded]

theorem dateLength_chars (d : Date) (time : List Char) : dateLength (d.chars ++ 'T' :: time) = 10 := by
  have hlength : (d.chars ++ 'T' :: time).length ≠ 7 := by
    rw [List.length_append, length_dateChars]
    omega
  have hdrop : (d.chars ++ 'T' :: time).drop 4 =
      '-' :: (padded 2 d.month ++ '-' :: padded 2 d.day ++ 'T' :: time) := by
    rw [List.drop_append_of_le_length (by rw [length_dateChars]; decide), drop_chars]
    rfl
  unfold dateLength
  rw [if_neg hlength, hdrop]
  split
  · next heq =>
    rw [padded_two] at heq
    exact absurd (List.cons.inj (List.cons.inj heq).2).1 (figure_ne (by decide) _)
  · rfl
  · next heq => cases (List.cons.inj heq).1
  · next hno _ => exact absurd rfl (hno _)

theorem readDateTime?_chars (hd : Gregorian.IsDate d) (hc : c.IsValid) :
    readDateTime? (d.chars ++ 'T' :: c.cut.chars) = some ⟨d.epochDay, c.micros⟩ := by
  unfold readDateTime?
  rw [dateLength_chars]
  dsimp only
  rw [List.take_left' (length_dateChars d), List.drop_left' (length_dateChars d), readDay?_chars hd]
  simp [readTime?_cut hc]

/-- The microseconds since midnight, none without a time of day. -/
def DateForm.micros (f : DateForm) : Nat := (f.clock.map Clock.micros).getD 0

/-- A form is read as its day and the microseconds since midnight in its zone. -/
theorem epochMillis_text_eq (hf : f.IsValid) :
    epochMillis f.text = .ok (LocalTime.epochMillis ⟨f.date.epochDay, f.micros⟩ f.zone.seconds) := by
  -- The reader refuses a zone of a day or more before it reads the rest.
  have hzone : f.zone.seconds.natAbs < 86400 := by
    have hz := hf.zone
    cases hzone : f.zone with
    | unnamed => exact Nat.zero_lt_succ _
    | universal => exact Nat.zero_lt_succ _
    | ahead hours minutes =>
      rw [hzone] at hz
      have := hz.2
      simp only [Zone.seconds]
      omega
    | behind hours minutes =>
      rw [hzone] at hz
      have := hz.2
      simp only [Zone.seconds]
      omega
  unfold epochMillis
  rw [trim_text, splitZone_text hf]
  dsimp only
  rw [if_neg (Nat.not_le.2 hzone), contains_localChars]
  cases hclock : f.clock with
  | none =>
    have hlocal : f.localChars = f.date.chars := by
      rw [DateForm.localChars, hclock]
      exact List.append_nil _
    rw [hlocal, readDate?_chars hf.date, DateForm.micros, hclock]
    rfl
  | some c =>
    have hlocal : sixPlaces f.localChars = f.date.chars ++ 'T' :: c.cut.chars := by
      rw [DateForm.localChars, hclock]
      show sixPlaces (f.date.chars ++ 'T' :: c.chars) = _
      rw [List.append_cons, sixPlaces_chars, ← List.append_cons]
    rw [hlocal, readDateTime?_chars hf.date (hf.clock c hclock), DateForm.micros, hclock]
    rfl

end TripleIndex
