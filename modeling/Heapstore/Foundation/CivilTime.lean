/-
Broken-down calendar time and its printing.

The zone of a local clock is an argument wherever it matters; the clock of
coordinated universal time is computed here from the day count.
-/

import Heapstore.Foundation.ByteText

namespace CivilTime

open ByteText

/-- A calendar time: the month counts from one, the year from zero. -/
structure Tm where
  year : Int
  month : Nat
  day : Nat
  hour : Nat
  minute : Nat
  second : Nat
  deriving DecidableEq

abbrev LocalClock := Int → Tm

/-- The proleptic Gregorian date of a day count from the epoch. -/
def civilDate (days : Int) : Int × Nat × Nat :=
  let shifted := days + 719468
  let era := shifted / 146097
  let dayOfEra := (shifted - era * 146097).toNat
  let yearOfEra :=
    (dayOfEra - dayOfEra / 1460 + dayOfEra / 36524 - dayOfEra / 146096) / 365
  let dayOfYear :=
    dayOfEra - (365 * yearOfEra + yearOfEra / 4 - yearOfEra / 100)
  let marchMonth := (5 * dayOfYear + 2) / 153
  let day := dayOfYear - (153 * marchMonth + 2) / 5 + 1
  let month := if marchMonth < 10 then marchMonth + 3 else marchMonth - 9
  let year := (yearOfEra : Int) + era * 400
  (if month ≤ 2 then year + 1 else year, month, day)

def gmtime : LocalClock := fun seconds =>
  let days := seconds / 86400
  let within := (seconds - days * 86400).toNat
  let date := civilDate days
  { year := date.1
    month := date.2.1
    day := date.2.2
    hour := within / 3600
    minute := within % 3600 / 60
    second := within % 60 }

def twoDigits (value : Nat) : Bytes :=
  if value < 10 then 48 :: decimal value else decimal value

def dateStamp (time : Tm) : Bytes :=
  signedDecimal time.year ++ twoDigits time.month ++ twoDigits time.day

def timeStamp (time : Tm) : Bytes :=
  twoDigits time.hour ++ twoDigits time.minute ++ twoDigits time.second

example : gmtime 951782400 =
    { year := 2000, month := 2, day := 29, hour := 0, minute := 0, second := 0 } := by
  decide

end CivilTime
