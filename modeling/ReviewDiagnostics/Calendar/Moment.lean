/-!
# Moments

A moment is a day of the calendar, or a time on such a day, which may say how far ahead of universal
time its clock is.  The calendar is the Gregorian one, extended back to the first year.
-/

namespace ReviewDiagnostics

-- Sums start from the zero of the core library, whatever else is imported.
attribute [local instance (2000)] Zero.ofOfNat0

/-- A time on a clock. -/
structure ClockTime where
  hour : Nat
  minute : Nat
  second : Nat
  microsecond : Nat
  /-- The minutes that the clock is ahead of universal time, if that is known. -/
  ahead? : Option Int
  deriving DecidableEq

/-- A day, or a time on a day. -/
structure Moment where
  year : Nat
  month : Nat
  day : Nat
  time? : Option ClockTime
  deriving DecidableEq

/-- Why there is no such moment. -/
inductive MomentFault where
  | year (n : Nat)
  | month
  | day
  | hour
  | minute
  | second
  /-- No clock is so many minutes ahead. -/
  | ahead (minutes : Int)
  deriving DecidableEq

namespace Moment

/-- Whether a year has a twenty-ninth of February. -/
def isLeap (year : Nat) : Bool :=
  year % 4 == 0 && (year % 100 != 0 || year % 400 == 0)

def monthLength (year month : Nat) : Nat :=
  if month = 2 then (if isLeap year then 29 else 28)
  else if [4, 6, 9, 11].contains month then 30
  else 31

def checkDay (m : Moment) : Except MomentFault Unit :=
  if m.year = 0 then .error (.year 0)
  else if m.month = 0 ∨ 12 < m.month then .error .month
  else if m.day = 0 ∨ monthLength m.year m.month < m.day then .error .day
  else .ok ()

/-- Whether a time is on the clock.  How far ahead the clock is was checked before. -/
def checkTime (t : ClockTime) : Except MomentFault Unit :=
  if 23 < t.hour then .error .hour
  else if 59 < t.minute then .error .minute
  else if 59 < t.second then .error .second
  else .ok ()

/-- Whether a clock can be so many minutes ahead: less than a day, in either direction. -/
def checkAhead (minutes : Int) : Except MomentFault Unit :=
  if minutes.natAbs < 24 * 60 then .ok () else .error (.ahead minutes)

def check (m : Moment) : Except MomentFault Unit := do
  match m.time? with
  | none => m.checkDay
  | some t =>
    match t.ahead? with
    | none => pure ()
    | some minutes => checkAhead minutes
    m.checkDay
    checkTime t

/-- The number of days from the start of the calendar. -/
def dayNumber (m : Moment) : Nat :=
  let before := m.year - 1
  let months := (List.range (m.month - 1)).map fun i => monthLength m.year (i + 1)
  365 * before + before / 4 - before / 100 + before / 400 + months.sum + m.day

/-- The microseconds from the start of the calendar, on the clock of the moment. -/
def clockCount (m : Moment) (t : ClockTime) : Int :=
  (((m.dayNumber * 24 + t.hour) * 60 + t.minute) * 60 + t.second) * 1000000 + t.microsecond

/-- Whether two moments are the same.  Times whose clocks are compared with universal time are the same
if they are at once. -/
def same (m n : Moment) : Bool :=
  match m.time?, n.time? with
  | some t, some u =>
    match t.ahead?, u.ahead? with
    | some a, some b => m.clockCount t - a * 60000000 == n.clockCount u - b * 60000000
    | none, none => m.clockCount t == n.clockCount u
    | _, _ => false
  | none, none => m.dayNumber == n.dayNumber
  | _, _ => false

def padded (width n : Nat) : String :=
  let digits := toString n
  "".pushn '0' (width - digits.length) ++ digits

/-- How far a clock is ahead, in hours and minutes. -/
def aheadText (minutes : Int) : String :=
  let n := minutes.natAbs
  (if minutes < 0 then "-" else "+") ++ padded 2 (n / 60) ++ ":" ++ padded 2 (n % 60)

/-- A moment as a text, from the year down. -/
def shown (m : Moment) : String :=
  let day := padded 4 m.year ++ "-" ++ padded 2 m.month ++ "-" ++ padded 2 m.day
  match m.time? with
  | none => day
  | some t =>
    day ++ " " ++ padded 2 t.hour ++ ":" ++ padded 2 t.minute ++ ":" ++ padded 2 t.second ++
      (if t.microsecond = 0 then "" else "." ++ padded 6 t.microsecond) ++
      (t.ahead?.map aheadText).getD ""

/-- A length of time as a literal, in days and seconds; the seconds are not negative. -/
def lengthLiteral (minutes : Int) : String :=
  let days := minutes / (24 * 60)
  let seconds := minutes % (24 * 60) * 60
  let parts := (if days = 0 then [] else [s!"days={days}"]) ++
    (if seconds = 0 then [] else [s!"seconds={seconds}"])
  "datetime.timedelta(" ++ (if parts.isEmpty then "0" else ", ".intercalate parts) ++ ")"

/-- The difference of a clock from universal time as a literal. -/
def aheadLiteral (minutes : Int) : String :=
  if minutes = 0 then "datetime.timezone.utc"
  else "datetime.timezone(" ++ lengthLiteral minutes ++ ")"

/-- A moment as a literal.  Seconds and what is smaller are left out where they are zero. -/
def literal (m : Moment) : String :=
  let day := [m.year, m.month, m.day]
  match m.time? with
  | none => "datetime.date(" ++ ", ".intercalate (day.map toString) ++ ")"
  | some t =>
    let small :=
      if t.microsecond ≠ 0 then [t.second, t.microsecond]
      else if t.second ≠ 0 then [t.second] else []
    let ahead := (t.ahead?.map fun a => "tzinfo=" ++ aheadLiteral a).toList
    "datetime.datetime(" ++
      ", ".intercalate ((day ++ [t.hour, t.minute] ++ small).map toString ++ ahead) ++ ")"

def sortWord (m : Moment) : String :=
  if m.time?.isSome then "datetime.datetime" else "datetime.date"

end Moment

def MomentFault.message : MomentFault → String
  | .year n => s!"year {n} is out of range"
  | .month => "month must be in 1..12"
  | .day => "day is out of range for month"
  | .hour => "hour must be in 0..23"
  | .minute => "minute must be in 0..59"
  | .second => "second must be in 0..59"
  | .ahead minutes =>
    "offset must be a timedelta strictly between -timedelta(hours=24) and timedelta(hours=24), not " ++
      Moment.lengthLiteral minutes ++ "."

end ReviewDiagnostics
