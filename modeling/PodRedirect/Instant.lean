import PodRedirect.Calendar

/-!
# Readings of a clock

A clock shows seconds after the start of 1970. Not every reading has a moment in the calendar, and
not every such moment can be written.

## Main definitions

* `Instant`: a reading of a clock
* `ClockFault`: why a reading is not written, with `ClockFault.message`
* `Instant.logText`, `Instant.isoText`: the moment in universal time, in two forms
-/

namespace PodRedirect

/-- A reading of a clock: the whole seconds after the start of 1970, and a rest of less than a
second with the same sign. A clock may also show a time beyond all numbers, or none. -/
inductive Instant where
  | finite (seconds : Int) (rest : Binary64)
  | infinite
  | unknown
  deriving DecidableEq, Repr

/-- Why a reading is not written: the seconds do not fit into 64 bits or the year less 1900 into 32
bits, or the year has more than four digits or is not after the first one. -/
inductive ClockFault where
  | unknown
  | seconds
  | moment
  | calendar (fault : CalendarFault)
  deriving DecidableEq, Repr

/-- A fault of a clock in words. -/
def ClockFault.message : ClockFault → String
  | .unknown => "Invalid value NaN (not a number)"
  | .seconds => "timestamp out of range for platform time_t"
  | .moment => "[Errno 75] Value too large for defined data type"
  | .calendar f => f.message

namespace Instant

/-- The instant at a number of seconds. -/
def ofInt (seconds : Int) : Instant := finite seconds (Binary64.ofInt 0)

/-- The instant at a number of seconds and parts of a second. -/
def ofBinary64 (x : Binary64) : Instant :=
  match x, x.truncate? with
  | .nan, _ => unknown
  | _, some n => finite n (x.add (Binary64.ofInt n).neg)
  | _, none => infinite

/-- The whole seconds of a reading. -/
def wholeSeconds : Instant → Int
  | finite seconds _ => seconds
  | _ => 0

/-- The years less 1900 that a clock has a moment for. -/
def isYear (n : Int) : Bool := -0x80000000 ≤ n - 1900 && n - 1900 < 0x80000000

/-- The moment in universal time at a number of seconds. -/
def momentAt (seconds : Int) : Except ClockFault Moment :=
  let m := Moment.ofSeconds seconds
  if seconds < -0x8000000000000000 || 0x8000000000000000 ≤ seconds then .error .seconds
  else if !isYear m.date.year then .error .moment
  else .ok m

/-- The moment in universal time with thousandths of a second, the rest cut off, for years up to
2147483647. The thousandths of a reading before 1970 are counted from its whole seconds and have a
sign. -/
def logText : Instant → Option String
  | finite seconds rest => do
    let before := if rest.isNegative && !rest.isZero then 1 else 0
    let m ← (momentAt (seconds - before)).toOption
    guard (m.date.year < 0x80000000)
    let millis := (rest.mul (Binary64.ofInt 1000)).truncate?.getD 0
    let fraction :=
      if millis < 0 then "-" ++ Text.zeroPad 2 millis.natAbs else Text.zeroPad 3 millis.natAbs
    return toString m.date.year ++ "-" ++ Text.zeroPad 2 m.date.month ++ "-" ++
      Text.zeroPad 2 m.date.day ++ " " ++ m.clockText ++ "," ++ fraction
  | _ => none

/-- The microseconds of a part of a second, a half going to the even one. -/
def microseconds (rest : Binary64) : Int :=
  match (rest.mul (Binary64.ofInt 1000000)).ratio? with
  | some (a, b) =>
    let n : Int := Binary64.roundDiv a.natAbs b
    if a < 0 then -n else n
  | none => 0

/-- The moment in universal time to the nearest microsecond, for the years 1 to 9999. A year that is
too large is told in 32 bits. -/
def isoText : Instant → Except ClockFault String
  | finite seconds rest => do
    let total := seconds * 1000000 + microseconds rest
    let m ← momentAt (total.fdiv 1000000)
    if m.date.year < 1 || 9999 < m.date.year then
      throw (.calendar (.year (m.date.year.bmod 0x100000000)))
    return Moment.text "T" { m with micro := (total.fmod 1000000).toNat, offset := some 0 }
  | infinite => throw .seconds
  | unknown => throw .unknown

end Instant

end PodRedirect
