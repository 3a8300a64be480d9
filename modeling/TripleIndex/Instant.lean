import TripleIndex.Calendar
import TripleIndex.Fault
import TripleIndex.Text.Blank
import TripleIndex.Text.Digit

/-!
Instants of `xsd:dateTime` and `xsd:date`, as milliseconds since the beginning of 1970 in universal
time. A time that names no zone is universal time. A date with a time may be written in the basic or
the extended format, by month and day or by week; one character of any kind stands before the time, but
somewhere in the text there is a `T`. The time may stop after the hours or the minutes. A date alone has
hyphens. Fractions of a second count to the microsecond.
-/

namespace TripleIndex

/-- A local time: the day and the microseconds that have passed in it. -/
structure LocalTime where
  epochDay : Int
  micros : Nat
  deriving DecidableEq, Repr

def asciiDigit? (c : Char) : Option Nat := if c.isDigit then some (c.toNat - 0x30) else none

/-- A number of exactly `count` ASCII digits at the front of a text. -/
def fixedDigits? : Nat → List Char → Option (Nat × List Char)
  | count, cs =>
    match (cs.take count).mapM asciiDigit? with
    | some ds => if ds.length = count then some (ofDigits ds, cs.drop count) else none
    | none => none

/-- Digits of a zone offset, in any script. -/
def pair? (a b : Char) : Option Nat := do
  let x ← digit? a
  let y ← digit? b
  some (10 * x + y)

/-- The zone at the end of a text, in seconds east of universal time, and the text before it. -/
def splitZone (cs : List Char) : List Char × Int :=
  match cs.reverse with
  | 'Z' :: rest => (rest.reverse, 0)
  | m2 :: m1 :: ':' :: h2 :: h1 :: sign :: rest =>
    match pair? h1 h2, pair? m1 m2 with
    | some hours, some minutes =>
      let seconds : Int := 3600 * hours + 60 * minutes
      if sign = '+' then (rest.reverse, seconds)
      else if sign = '-' then (rest.reverse, -seconds)
      else (cs, 0)
    | _, _ => (cs, 0)
  | _ => (cs, 0)

/-- The fraction at the end of a text, with exactly six digits. One newline after it goes too. -/
def sixPlaces (cs : List Char) : List Char :=
  let backward := match cs.reverse with
    | '\n' :: rest => rest
    | rest => rest
  let places := (backward.takeWhile isDecimalDigit).reverse
  match backward.dropWhile isDecimalDigit with
  | '.' :: rest =>
    if places.isEmpty then cs
    else rest.reverse ++ '.' :: places.take 6 ++ List.replicate (6 - places.length) '0'
  | _ => cs

/-- Microseconds from the digits after a point: six count, the ones after them only have to be
digits. A text ends at its first null character. -/
def readFractionMicros? (cs : List Char) : Option Nat := do
  let count := min 6 cs.length
  let (value, rest) ← fixedDigits? count cs
  match rest.dropWhile Char.isDigit with
  | [] => some (value * Nat.pow 10 (6 - count))
  | c :: _ => if c = '\x00' then some (value * Nat.pow 10 (6 - count)) else none

/-- What separates hours, minutes and seconds. -/
inductive ClockFormat where
  | unknown
  | extended
  | basic
  deriving DecidableEq, Repr

/-- Up to `left` more components of two digits, followed by a fraction. Returns the components and
the microseconds. -/
def readClock? : Nat → ClockFormat → List Char → Option (List Nat × Nat)
  | 0, _, cs => (readFractionMicros? cs).map fun micros => ([], micros)
  | left + 1, format, cs => do
    let (value, rest) ← fixedDigits? 2 cs
    match rest with
    | [] => some ([value], 0)
    | [c] => if c = '\x00' then some ([value], 0) else none
    | c :: tail =>
      let format := if format = .unknown then if c = ':' then .extended else .basic else format
      if format = .extended && c = ':' then
        (readClock? left format tail).map fun (vs, micros) => (value :: vs, micros)
      else if c = '.' || c = ',' then
        (readFractionMicros? tail).map fun micros => ([value], micros)
      else if format = .basic then
        (readClock? left format rest).map fun (vs, micros) => (value :: vs, micros)
      else none

def readTime? (cs : List Char) : Option Nat := do
  if cs.any (fun c => c = '+' || c = '-' || c = 'Z') then none
  else
    let (parts, micros) ← readClock? 3 .unknown cs
    let hour := parts.getD 0 0
    let minute := parts.getD 1 0
    let second := parts.getD 2 0
    if hour ≤ 23 && minute ≤ 59 && second ≤ 59 then
      some ((3600 * hour + 60 * minute + second) * 1000000 + micros)
    else none

/-- The day of a month and a day, which are all that is left of a text. -/
def readMonthDay? (extended : Bool) (year : Nat) (cs : List Char) : Option Int := do
  let (month, rest) ← fixedDigits? 2 cs
  let rest ← if extended then (if rest.head? = some '-' then some rest.tail else none) else some rest
  let (day, rest) ← fixedDigits? 2 rest
  let date : Date := ⟨year, month, day⟩
  if date.isValid && rest.isEmpty then some date.epochDay else none

/-- The day of a week and a weekday, which are all that is left of a text. Without a weekday it is the
Monday. -/
def readWeekDay? (extended : Bool) (year : Nat) (cs : List Char) : Option Int := do
  let (week, rest) ← fixedDigits? 2 cs
  match rest with
  | [] => epochDayOfWeek? year week 1
  | c :: tail =>
    if extended && c ≠ '-' then none
    else
      let (day, rest) ← fixedDigits? 1 (if extended then tail else rest)
      if rest.isEmpty then epochDayOfWeek? year week day else none

/-- The day of a date in the basic or the extended format. -/
def readDay? (cs : List Char) : Option Int := do
  let (year, rest) ← fixedDigits? 4 cs
  match rest with
  | '-' :: 'W' :: tail => readWeekDay? true year tail
  | '-' :: tail => readMonthDay? true year tail
  | 'W' :: tail => readWeekDay? false year tail
  | _ => readMonthDay? false year rest

/-- How many characters of a date with a time belong to the date. The character after them may be any,
so a week of the extended format that is followed by a hyphen has a weekday unless a digit stands where
a time would have its second one. In the basic format the digits after a week tell: those of a time
come in pairs, and an odd one is the weekday. -/
def dateLength (cs : List Char) : Nat :=
  if cs.length = 7 then 7
  else
    match cs.drop 4 with
    | '-' :: 'W' :: _ =>
      match cs.drop 8 with
      | '-' :: rest => if (rest.drop 1).head?.any Char.isDigit then 8 else 10
      | _ => 8
    | '-' :: _ => 10
    | 'W' :: _ =>
      let n := 7 + ((cs.drop 7).takeWhile Char.isDigit).length
      if n < 9 then n else if n % 2 = 0 then 7 else 8
    | _ => 8

/-- A date and a time with one character between them. -/
def readDateTime? (cs : List Char) : Option LocalTime := do
  let n := dateLength cs
  let day ← readDay? (cs.take n)
  match cs.drop n with
  | [] => some ⟨day, 0⟩
  | _ :: time => (readTime? time).map fun micros => ⟨day, micros⟩

def inRange (low high c : Char) : Bool := low ≤ c && c ≤ high

/-- A month in one digit or two. -/
def readMonth? : List Char → Option Nat
  | [a] => if inRange '1' '9' a then some (a.toNat - 0x30) else none
  | [a, b] =>
    if a = '1' && inRange '0' '2' b || a = '0' && inRange '1' '9' b then pair? a b else none
  | _ => none

/-- A day of a month in one digit or two. A space may stand for a leading zero, and the second digit
after a one or a two may be of any script. -/
def readDayOfMonth? : List Char → Option Nat
  | [a] => if inRange '1' '9' a then some (a.toNat - 0x30) else none
  | [a, b] =>
    if a = '3' && inRange '0' '1' b || inRange '1' '2' a || a = '0' && inRange '1' '9' b then
      pair? a b
    else if a = ' ' && inRange '1' '9' b then some (b.toNat - 0x30)
    else none
  | _ => none

/-- A date of four digits, a month and a day with hyphens between them. -/
def readDate? (cs : List Char) : Option LocalTime := do
  let year ← (cs.take 4).mapM digit?
  if year.length = 4 then
    match cs.drop 4 with
    | '-' :: rest =>
      let (monthText, dayText) ← splitAtHyphen? rest
      let month ← readMonth? monthText
      let day ← readDayOfMonth? dayText
      let date : Date := ⟨ofDigits year, month, day⟩
      if date.isValid then some ⟨date.epochDay, 0⟩ else none
    | _ => none
  else none
where
  splitAtHyphen? (cs : List Char) : Option (List Char × List Char) :=
    match cs.dropWhile (· ≠ '-') with
    | _ :: after => some (cs.takeWhile (· ≠ '-'), after)
    | [] => none

def microsOfDay : Int := 86400 * 1000000

/-- Milliseconds since the beginning of 1970 of a local time in a zone, rounded down. -/
def LocalTime.epochMillis (t : LocalTime) (zone : Int) : Int :=
  (t.epochDay * microsOfDay + t.micros - zone * 1000000).fdiv 1000

/-- Milliseconds since the beginning of 1970 of a date, with or without a time. -/
def epochMillis (lexical : String) : Except Fault Int :=
  let (text, zone) := splitZone (trim lexical.toList)
  if 86400 ≤ zone.natAbs then .error (.offsetBeyondDay zone)
  else if text.contains 'T' then
    match readDateTime? (sixPlaces text) with
    | some t => .ok (t.epochMillis zone)
    | none => .error (.notDateTime lexical)
  else
    match readDate? text with
    | some t => .ok (t.epochMillis zone)
    | none => .error (.notDate lexical)

end TripleIndex
