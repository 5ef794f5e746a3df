import DebugServer.Value.Basic

/-!
# Timestamps on the calendar

An instant is shown as the date and time of day in its offset, on the Gregorian calendar extended
backwards, with a year 0 before the year 1.
-/

namespace DebugServer

structure CalendarTime where
  year : Int
  month : Nat
  day : Nat
  hour : Nat
  minute : Nat
  second : Nat
deriving DecidableEq, Repr

/-- The civil date of a day number, counted from 1970-01-01: the year is taken to start in March,
so that a leap day is the last day of its year. -/
def civilDate (days : Int) : Int × Nat × Nat :=
  let z := days + 719468
  let era := z.fdiv 146097
  let dayOfEra := (z.fmod 146097).toNat
  let yearOfEra := (dayOfEra - dayOfEra / 1460 + dayOfEra / 36524 - dayOfEra / 146096) / 365
  let dayOfYear := dayOfEra - (365 * yearOfEra + yearOfEra / 4 - yearOfEra / 100)
  let shifted := (5 * dayOfYear + 2) / 153
  let day := dayOfYear - (153 * shifted + 2) / 5 + 1
  let month := if shifted < 10 then shifted + 3 else shifted - 9
  let year : Int := yearOfEra + era * 400
  (if month ≤ 2 then year + 1 else year, month, day)

namespace Timestamp

def clock (t : Timestamp) : CalendarTime :=
  let seconds := t.seconds + t.offset
  let ofDay := (seconds.fmod 86400).toNat
  let (year, month, day) := civilDate (seconds.fdiv 86400)
  ⟨year, month, day, ofDay / 3600, ofDay / 60 % 60, ofDay % 60⟩

def padded (width n : Nat) : String :=
  String.ofList (List.leftpad width '0' (Nat.toDigits 10 n))

/-- Four digits; a sign before negative years and before years of more digits. -/
def yearText (year : Int) : String :=
  let sign := if year < 0 then "-" else if 9999 < year then "+" else ""
  sign ++ padded 4 year.natAbs

def dateText (t : CalendarTime) : String :=
  yearText t.year ++ "-" ++ padded 2 t.month ++ "-" ++ padded 2 t.day

def fractionDigits (nanos : Nat) : List Char :=
  ((List.leftpad 9 '0' (Nat.toDigits 10 nanos)).reverse.dropWhile (· = '0')).reverse

/-- The offset as a sign, two digits of hours and two of minutes; seconds are not shown. -/
def zoneText (offset : Int) : String :=
  (if offset < 0 then "-" else "+") ++ padded 2 (offset.natAbs / 3600) ++
    padded 2 (offset.natAbs / 60 % 60)

/-- `2024-06-06 01:02:03.5 +0000 UTC`: a fraction only when it is not zero, and the offset a
second time in place of the name of any other zone. -/
def text (t : Timestamp) : String :=
  let l := t.clock
  let fraction := if t.nanos = 0 then "" else "." ++ String.ofList (fractionDigits t.nanos)
  let zone := zoneText t.offset
  dateText l ++ " " ++ padded 2 l.hour ++ ":" ++ padded 2 l.minute ++ ":" ++ padded 2 l.second ++
    fraction ++ " " ++ zone ++ " " ++ (if t.offset = 0 then "UTC" else zone)

end Timestamp

end DebugServer
