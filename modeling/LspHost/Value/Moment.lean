import LspHost.Text.Digits

/-!
# Dates and times

A configuration file can hold dates, times of day, and both together with or without an offset from
universal time. `Moment.iso` is their written form; two moments with offsets are the same when they
are the same instant.
-/

namespace LspHost

/-- A day of the Gregorian calendar. -/
structure Date where
  /-- year, from 1 to 9999 -/
  year : Nat
  /-- month, from 1 -/
  month : Nat
  /-- day of the month, from 1 -/
  day : Nat
  deriving DecidableEq, Repr

/-- A time of day. -/
structure Clock where
  /-- hour -/
  hour : Nat
  /-- minute -/
  minute : Nat
  /-- second -/
  second : Nat
  /-- microsecond -/
  micro : Nat
  deriving DecidableEq, Repr

/-- A date, a time of day, or both; `offset` is in minutes east of universal time. -/
inductive Moment where
  /-- a date -/
  | date (day : Date)
  /-- a time of day -/
  | time (clock : Clock)
  /-- a date with a time of day -/
  | dateTime (day : Date) (clock : Clock) (offset : Option Int)
  deriving DecidableEq, Repr

/-! ## The calendar -/

/-- Whether a year has a leap day. -/
def isLeapYear (year : Nat) : Bool :=
  year % 4 == 0 && (year % 100 != 0 || year % 400 == 0)

/-- The number of days of a month. -/
def daysInMonth (year month : Nat) : Nat :=
  if month = 2 then (if isLeapYear year then 29 else 28)
  else if month = 4 ∨ month = 6 ∨ month = 9 ∨ month = 11 then 30
  else 31

namespace Date

/-- Whether the calendar has the day. -/
def isValid (d : Date) : Bool :=
  1 ≤ d.year && d.year ≤ 9999 && 1 ≤ d.month && d.month ≤ 12 && 1 ≤ d.day &&
    d.day ≤ daysInMonth d.year d.month

/-- The number of days before this one, counted from the first day of year 1. -/
def ordinal (d : Date) : Nat :=
  let past := d.year - 1
  let months := (List.range (d.month - 1)).map fun m => daysInMonth d.year (m + 1)
  past * 365 + past / 4 - past / 100 + past / 400 + months.foldl (· + ·) 0 + (d.day - 1)

/-- The date as `YYYY-MM-DD`. -/
def iso (d : Date) : String :=
  Text.paddedDecimal 4 d.year ++ "-" ++ Text.paddedDecimal 2 d.month ++ "-" ++
    Text.paddedDecimal 2 d.day

end Date

namespace Clock

/-- The microseconds since midnight. -/
def sinceMidnight (t : Clock) : Nat :=
  ((t.hour * 60 + t.minute) * 60 + t.second) * 1000000 + t.micro

/-- The time as `HH:MM:SS`, with six digits of a second if there is a fraction. -/
def iso (t : Clock) : String :=
  Text.paddedDecimal 2 t.hour ++ ":" ++ Text.paddedDecimal 2 t.minute ++ ":" ++
    Text.paddedDecimal 2 t.second ++
    (if t.micro = 0 then "" else "." ++ Text.paddedDecimal 6 t.micro)

end Clock

namespace Moment

/-- An offset as `+HH:MM`. -/
def offsetText (offset : Int) : String :=
  (if offset < 0 then "-" else "+") ++ Text.paddedDecimal 2 (offset.natAbs / 60) ++ ":" ++
    Text.paddedDecimal 2 (offset.natAbs % 60)

/-- The written form; `between` stands between a date and its time of day. -/
def iso (between : String) : Moment → String
  | .date d => d.iso
  | .time t => t.iso
  | .dateTime d t offset => d.iso ++ between ++ t.iso ++ (offset.map offsetText).getD ""

/-- The microseconds since the start of year 1 in universal time. -/
def instant (d : Date) (t : Clock) (offset : Int) : Int :=
  (d.ordinal : Int) * 86400000000 + t.sinceMidnight - offset * 60000000

/-- Whether two moments are the same: of the same kind and equal, or the same instant if both have
an offset. -/
def same : Moment → Moment → Bool
  | .dateTime d t (some offset), .dateTime d' t' (some offset') =>
    instant d t offset == instant d' t' offset'
  | a, b => a == b

/-! ## The descriptive form -/

/-- The parts of a time of day down to the last one that is not zero, hour and minute always. -/
def clockParts (t : Clock) : List Nat :=
  [t.hour, t.minute] ++
    (if t.micro = 0 then (if t.second = 0 then [] else [t.second]) else [t.second, t.micro])

/-- Numbers with commas between them. -/
def listed (parts : List Nat) : String :=
  ", ".intercalate (parts.map toString)

/-- A time difference in minutes by whole days, which may be negative, and seconds, which are not.
-/
def differenceText (minutes : Int) : String :=
  let seconds := minutes * 60
  let days := Int.fdiv seconds 86400
  let rest := Int.fmod seconds 86400
  let parts := (if days = 0 then [] else ["days=" ++ toString days]) ++
    (if rest = 0 then [] else ["seconds=" ++ toString rest])
  "datetime.timedelta(" ++ (if parts.isEmpty then "0" else ", ".intercalate parts) ++ ")"

/-- An offset as a zone. -/
def zoneText (offset : Int) : String :=
  if offset = 0 then "datetime.timezone.utc"
  else "datetime.timezone(" ++ differenceText offset ++ ")"

/-- The form that names the kind and the parts, used for moments inside lists and tables. -/
def described : Moment → String
  | .date d => "datetime.date(" ++ listed [d.year, d.month, d.day] ++ ")"
  | .time t => "datetime.time(" ++ listed (clockParts t) ++ ")"
  | .dateTime d t offset =>
    "datetime.datetime(" ++ listed ([d.year, d.month, d.day] ++ clockParts t) ++
      (offset.map fun o => ", tzinfo=" ++ zoneText o).getD "" ++ ")"

end Moment

end LspHost
