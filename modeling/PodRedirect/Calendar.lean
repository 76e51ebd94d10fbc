import PodRedirect.Binary64
import PodRedirect.Text.Basic

/-!
# Dates and times of day

The Gregorian calendar, extended to all years, and moments on it with an optional distance from
universal time.

## Main definitions

* `Date`, `Date.days`, `Date.ofDays`: a date and its number of days after 1970-01-01
* `Moment`: a date, a time of day and perhaps an offset in minutes
* `Date.fault?`, `Moment.fault?`: why given numbers are no date or time
* `Moment.ofSeconds`: the moment a clock shows
-/

namespace PodRedirect

/-- A date of the Gregorian calendar. -/
structure Date where
  year : Int
  month : Nat
  day : Nat
  deriving DecidableEq, Repr

/-- A date and a time of day, with the distance from universal time in minutes if one is known. -/
structure Moment where
  date : Date
  hour : Nat
  minute : Nat
  second : Nat
  micro : Nat
  offset : Option Int
  deriving DecidableEq, Repr

/-- Why numbers are no date or time. -/
inductive CalendarFault where
  | year (n : Int)
  | month
  | day
  | hour
  | minute
  | second
  | offset (minutes : Int)
  deriving DecidableEq, Repr

/-- A length of time in minutes as days and seconds of a day. -/
def durationText (minutes : Int) : String :=
  let days := minutes.fdiv 1440
  let seconds := minutes.fmod 1440 * 60
  let parts := (if days = 0 then [] else ["days=" ++ toString days]) ++
    (if seconds = 0 then [] else ["seconds=" ++ toString seconds])
  "datetime.timedelta(" ++ (if parts.isEmpty then "0" else ", ".intercalate parts) ++ ")"

/-- A calendar fault in words. -/
def CalendarFault.message : CalendarFault → String
  | .year n => "year " ++ toString n ++ " is out of range"
  | .month => "month must be in 1..12"
  | .day => "day is out of range for month"
  | .hour => "hour must be in 0..23"
  | .minute => "minute must be in 0..59"
  | .second => "second must be in 0..59"
  | .offset minutes =>
    "offset must be a timedelta strictly between -timedelta(hours=24) and timedelta(hours=24), " ++
      "not " ++ durationText minutes ++ "."

namespace Date

/-- A year with a twenty-ninth of February. -/
def isLeap (year : Int) : Bool :=
  year % 4 = 0 && (year % 100 ≠ 0 || year % 400 = 0)

/-- The number of days of a month. -/
def monthLength (year : Int) (month : Nat) : Nat :=
  if month = 2 then (if isLeap year then 29 else 28)
  else if month = 4 || month = 6 || month = 9 || month = 11 then 30
  else 31

/-- Why the numbers are no date of the years 1 to 9999. -/
def fault? (d : Date) : Option CalendarFault :=
  if d.year < 1 || 9999 < d.year then some (.year d.year)
  else if d.month < 1 || 12 < d.month then some .month
  else if d.day < 1 || monthLength d.year d.month < d.day then some .day
  else none

/-- The number of days after 1970-01-01. Years are counted from March, so that the day that
comes and goes is the last one. -/
def days (d : Date) : Int :=
  let y := if d.month ≤ 2 then d.year - 1 else d.year
  let m : Int := if d.month ≤ 2 then d.month + 9 else d.month - 3
  365 * y + y.fdiv 4 - y.fdiv 100 + y.fdiv 400 + (153 * m + 2).fdiv 5 + d.day - 719469

/-- The date at a number of days after 1970-01-01. -/
def ofDays (n : Int) : Date :=
  let z := n + 719468
  let era := z.fdiv 146097
  let doe := z - era * 146097
  let yoe := (doe - doe.fdiv 1460 + doe.fdiv 36524 - doe.fdiv 146096).fdiv 365
  let doy := doe - (365 * yoe + yoe.fdiv 4 - yoe.fdiv 100)
  let mp := (5 * doy + 2).fdiv 153
  let day := doy - (153 * mp + 2).fdiv 5 + 1
  let month := if mp < 10 then mp + 3 else mp - 9
  ⟨yoe + era * 400 + (if month ≤ 2 then 1 else 0), month.toNat, day.toNat⟩

/-- Year, month and day with dashes between them. -/
def text (d : Date) : String :=
  Text.zeroPad 4 d.year.toNat ++ "-" ++ Text.zeroPad 2 d.month ++ "-" ++ Text.zeroPad 2 d.day

/-- The date as an expression. -/
def quoted (d : Date) : String :=
  "datetime.date(" ++ toString d.year ++ ", " ++ toString d.month ++ ", " ++ toString d.day ++ ")"

end Date

namespace Moment

/-- Why the numbers are no moment. The offset is looked at first. -/
def fault? (m : Moment) : Option CalendarFault :=
  (m.offset.bind fun o => if o ≤ -1440 || 1440 ≤ o then some (CalendarFault.offset o) else none)
  |>.or m.date.fault?
  |>.or (if 23 < m.hour then some .hour
    else if 59 < m.minute then some .minute
    else if 59 < m.second then some .second
    else none)

/-- The number of seconds after the start of 1970 on the moment's own clock. -/
def seconds (m : Moment) : Int :=
  m.date.days * 86400 + m.hour * 3600 + m.minute * 60 + m.second

/-- The same instant, or without offsets the same reading of the clock. -/
def same (a b : Moment) : Bool :=
  match a.offset, b.offset with
  | some o, some p => a.seconds - 60 * o == b.seconds - 60 * p && a.micro == b.micro
  | none, none => a.seconds == b.seconds && a.micro == b.micro
  | _, _ => false

/-- The moment at a number of seconds after the start of 1970, without a fraction. -/
def ofSeconds (n : Int) : Moment :=
  let s := (n.fmod 86400).toNat
  ⟨Date.ofDays (n.fdiv 86400), s / 3600, s / 60 % 60, s % 60, 0, none⟩

/-- Hours, minutes and seconds with colons between them. -/
def clockText (m : Moment) : String :=
  Text.zeroPad 2 m.hour ++ ":" ++ Text.zeroPad 2 m.minute ++ ":" ++ Text.zeroPad 2 m.second

/-- The offset with its sign, as hours and minutes. -/
def offsetText (minutes : Int) : String :=
  (if minutes < 0 then "-" else "+") ++ Text.zeroPad 2 (minutes.natAbs / 60) ++ ":" ++
    Text.zeroPad 2 (minutes.natAbs % 60)

/-- The moment in words: date, `separator`, time of day, a fraction of six digits unless it is
zero, and the offset if one is known. -/
def text (separator : String) (m : Moment) : String :=
  m.date.text ++ separator ++ m.clockText ++
    (if m.micro = 0 then "" else "." ++ Text.zeroPad 6 m.micro) ++
    (m.offset.elim "" offsetText)

/-- The moment as an expression. Seconds and microseconds are left out while they are zero. -/
def quoted (m : Moment) : String :=
  let tail := if m.micro ≠ 0 then [m.second, m.micro] else if m.second ≠ 0 then [m.second] else []
  let numbers := [m.date.month, m.date.day, m.hour, m.minute] ++ tail
  let zone := m.offset.elim "" fun o =>
    ", tzinfo=" ++ if o = 0 then "datetime.timezone.utc"
      else "datetime.timezone(" ++ durationText o ++ ")"
  "datetime.datetime(" ++ ", ".intercalate (toString m.date.year :: numbers.map toString) ++
    zone ++ ")"

end Moment

end PodRedirect
