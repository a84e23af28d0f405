import Parley.Text.Numeral

/-!
# Moments

A moment is a reading of a clock and a calendar, kept as the microseconds since the beginning of 1970
on that clock, and, when it is known, how far the clock is ahead of universal time. Distances and order
are then those of whole numbers, and the calendar is only a way to read and write a moment.
-/

namespace Parley

/-- A date and a time of day. -/
structure Moment where
  /-- Microseconds since 1970 began, on the clock that the moment was read from. -/
  clock : Int
  /-- Seconds by which that clock is ahead of universal time, if known. -/
  ahead : Option Int
  deriving DecidableEq, Repr, Inhabited

namespace Moment

/-! ### The calendar -/

/-- Days from the beginning of 1970 to a date of the Gregorian calendar. Years are counted from March,
so that the day that may be missing comes last. -/
def daysOf (year : Int) (month day : Nat) : Int :=
  let y := if month ≤ 2 then year - 1 else year
  let era := y.fdiv 400
  let ofEra := y - era * 400
  let sinceMarch : Int := if 2 < month then (month : Int) - 3 else (month : Int) + 9
  let ofYear := (153 * sinceMarch + 2) / 5 + (day : Int) - 1
  era * 146097 + (ofEra * 365 + ofEra / 4 - ofEra / 100 + ofYear) - 719468

/-- A date of the Gregorian calendar. -/
structure Date where
  year : Int
  month : Nat
  day : Nat
  deriving DecidableEq

/-- The date so many days after 1970 began. -/
def dateOf (days : Int) : Date :=
  let z := days + 719468
  let era := z.fdiv 146097
  let ofEra := z - era * 146097
  let yearOfEra := (ofEra - ofEra / 1460 + ofEra / 36524 - ofEra / 146096) / 365
  let ofYear := ofEra - (365 * yearOfEra + yearOfEra / 4 - yearOfEra / 100)
  let sinceMarch := (5 * ofYear + 2) / 153
  let day := (ofYear - (153 * sinceMarch + 2) / 5 + 1).toNat
  let month := (if sinceMarch < 10 then sinceMarch + 3 else sinceMarch - 9).toNat
  ⟨yearOfEra + era * 400 + (if month ≤ 2 then 1 else 0), month, day⟩

/-- Whether a year has a 29th of February. -/
def isLeap (year : Nat) : Bool :=
  (year % 4 == 0 && year % 100 != 0) || year % 400 == 0

/-- The count of days of a month. -/
def monthLength (year month : Nat) : Nat :=
  if month = 2 then (if isLeap year then 29 else 28)
  else if month = 4 ∨ month = 6 ∨ month = 9 ∨ month = 11 then 30 else 31

/-- Microseconds in a day. -/
def dayLength : Int := 86400000000

/-- The date of a moment. -/
def date (m : Moment) : Date := dateOf (m.clock.fdiv dayLength)

/-- Microseconds since midnight. -/
def sinceMidnight (m : Moment) : Nat := (m.clock.fmod dayLength).toNat

/-- The hour of the day. -/
def hour (m : Moment) : Nat := m.sinceMidnight / 3600000000

/-- The minute of the hour. -/
def minute (m : Moment) : Nat := m.sinceMidnight / 60000000 % 60

/-- The second of the minute. -/
def second (m : Moment) : Nat := m.sinceMidnight / 1000000 % 60

/-! ### Order and distance -/

/-- Microseconds since 1970 began in universal time; a clock of unknown offset is taken to show it. -/
def instant (m : Moment) : Int := m.clock - m.ahead.getD 0 * 1000000

/-- Whether two moments have a distance: the offsets of both clocks are known, or those of neither. -/
def comparable (m past : Moment) : Bool := m.ahead.isSome == past.ahead.isSome

/-- A moment so many seconds later on the same clock. -/
def later (m : Moment) (seconds : Int) : Moment := { m with clock := m.clock + seconds * 1000000 }

/-- Whether `m` is less than `seconds` after `past`. -/
def within (m past : Moment) (seconds : Int) : Bool := m.instant - past.instant < seconds * 1000000

/-! ### Writing -/

/-- A number with at least `width` digits. -/
def padded (width n : Nat) : String :=
  let digits := Nat.repr n
  String.ofList (List.replicate (width - digits.length) '0') ++ digits

/-- The offset from universal time: `Z` when there is none. -/
def offsetText (ahead : Int) : String :=
  if ahead = 0 then "Z"
  else
    let minutes := ahead.natAbs / 60
    (if ahead < 0 then "-" else "+") ++ padded 2 (minutes / 60) ++ ":" ++ padded 2 (minutes % 60)

/-- The written form of a moment: date, `T`, time, microseconds if there are any, and the offset if it
is known. -/
def toText (m : Moment) : String :=
  let d := m.date
  let micros := m.sinceMidnight % 1000000
  padded 4 d.year.toNat ++ "-" ++ padded 2 d.month ++ "-" ++ padded 2 d.day ++ "T" ++
    padded 2 m.hour ++ ":" ++ padded 2 m.minute ++ ":" ++ padded 2 m.second ++
    (if micros = 0 then "" else "." ++ padded 6 micros) ++
    (match m.ahead with
      | some ahead => offsetText ahead
      | none => "")

/-- Month, day and year. -/
def dateText (m : Moment) : String :=
  let d := m.date
  padded 2 d.month ++ "/" ++ padded 2 d.day ++ "/" ++ toString d.year

/-- The time on a clock of twelve hours. -/
def timeText (m : Moment) : String :=
  let hour := m.hour % 12
  padded 2 (if hour = 0 then 12 else hour) ++ ":" ++ padded 2 m.minute ++ ":" ++ padded 2 m.second ++
    (if m.hour < 12 then " AM" else " PM")

/-- Hours and minutes. -/
def shortTime (m : Moment) : String :=
  padded 2 m.hour ++ ":" ++ padded 2 m.minute

/-! ### Reading -/

/-- The moment of a valid date and time. -/
def ofFields? (year month day hour minute second micros : Nat) (ahead : Option Int) : Option Moment :=
  if 1 ≤ year ∧ 1 ≤ month ∧ month ≤ 12 ∧ 1 ≤ day ∧ day ≤ monthLength year month ∧
      hour < 24 ∧ minute < 60 ∧ second < 60 then
    let seconds : Int := hour * 3600 + minute * 60 + second
    some ⟨daysOf year month day * dayLength + seconds * 1000000 + micros, ahead⟩
  else none

/-- A number of exactly so many digits, and what follows it. -/
def number? (width : Nat) (cs : List Char) : Option (Nat × List Char) :=
  if width ≤ cs.length then (Text.digits? (cs.take width)).map (·, cs.drop width) else none

/-- A number of exactly so many digits behind a mark, and what follows it. -/
def marked? (mark : Char) (width : Nat) (cs : List Char) : Option (Nat × List Char) :=
  if cs.head? == some mark then number? width (cs.drop 1) else none

/-- The seconds of a time, which may be missing, and what follows them. -/
def seconds? (cs : List Char) : Option (Nat × List Char) :=
  if cs.head? == some ':' then number? 2 (cs.drop 1) else some (0, cs)

/-- The microseconds of a fraction, of which six digits count. -/
def fraction (digits : List Char) : Nat :=
  let six := digits.take 6
  ((Text.digits? six).getD 0) * Nat.pow 10 (6 - six.length)

/-- The fraction of a second, which may be missing, in microseconds, and what follows it. -/
def micros? (cs : List Char) : Option (Nat × List Char) :=
  if cs.head? == some '.' || cs.head? == some ',' then
    let digits := (cs.drop 1).takeWhile Char.isDigit
    if digits.isEmpty then none
    else some (fraction digits, (cs.drop 1).dropWhile Char.isDigit)
  else some (0, cs)

/-- The offset at the end of a moment: nothing, `Z`, or hours and minutes after a sign. -/
def offset? : List Char → Option (Option Int)
  | [] => some none
  | ['Z'] => some (some 0)
  | ['z'] => some (some 0)
  | mark :: rest => do
    guard (mark == '+' || mark == '-')
    let (hours, rest) ← number? 2 rest
    let (minutes, rest) ← number? 2 (if rest.head? == some ':' then rest.drop 1 else rest)
    guard (rest.isEmpty && hours < 24 && minutes < 60)
    let size : Int := (hours * 60 + minutes) * 60
    pure (some (if mark == '-' then -size else size))

/-- Reads date and time: the seconds may be missing, and so may their fraction and the offset. -/
def ofChars? (cs : List Char) : Option Moment := do
  let (year, rest) ← number? 4 cs
  let (month, rest) ← marked? '-' 2 rest
  let (day, rest) ← marked? '-' 2 rest
  if rest.isEmpty then ofFields? year month day 0 0 0 0 none
  else
    guard (['T', 't', ' ', '_'].contains (rest.headD 'T'))
    let (hour, rest) ← number? 2 (rest.drop 1)
    let (minute, rest) ← marked? ':' 2 rest
    let (second, rest) ← seconds? rest
    let (micros, rest) ← micros? rest
    let ahead ← offset? rest
    ofFields? year month day hour minute second micros ahead

/-- The moment so many microseconds after 1970 began in universal time, from the year 1 to the year 9999. -/
def ofInstant? (micros : Int) : Option Moment :=
  if -62135596800000000 ≤ micros ∧ micros < 253402300800000000 then some ⟨micros, some 0⟩ else none

/-- The moment that a number means: seconds since 1970 began, or milliseconds if it is too large. -/
def ofNumber? (n : Int) (micros : Nat) : Option Moment :=
  if 20000000000 < n.natAbs then ofInstant? (n * 1000 + micros / 1000)
  else ofInstant? (n * 1000000 + micros)

/-- The moment that a decimal means, of which the microseconds count: seconds since 1970 began, or
milliseconds if it is too large. -/
def ofDecimal? (negative : Bool) (whole fraction : List Char) : Option Moment := do
  let n ← Text.digits? (whole ++ fraction)
  let scale := Nat.pow 10 fraction.length
  let unit := if 20000000000 * scale < n then 1000 else 1000000
  let micros : Int := (2 * n * unit + scale) / (2 * scale)
  ofInstant? (if negative then -micros else micros)

/-- Reads a moment: date and time, a date alone for its midnight, or a number of seconds. -/
def ofText? (s : String) : Option Moment :=
  match ofChars? s.toList with
  | some m => some m
  | none =>
    let body := Text.sign s.toList
    let whole := body.2.takeWhile (· != '.')
    let tail := body.2.dropWhile (· != '.')
    if whole.isEmpty || tail == ['.'] then none else ofDecimal? body.1 whole (tail.drop 1)

end Moment

end Parley
