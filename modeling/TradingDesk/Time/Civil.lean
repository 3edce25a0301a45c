import TradingDesk.Number.Written

/-! Dates of the Gregorian calendar, and the text of a moment that is counted in milliseconds from the start
of 1970. -/

namespace TradingDesk

structure CivilDate where
  year : Int
  month : Nat
  day : Nat
  deriving DecidableEq, Repr

namespace CivilDate

/-- Days from the first of March of the year 0 to the start of 1970. -/
def epoch : Int := 719468

def daysOfEra : Int := 146097

/-- Years are counted from March, so that a leap day is the last of its year. -/
def ofDays (days : Int) : CivilDate :=
  let shifted := days + epoch
  let era := shifted / daysOfEra
  let day := (shifted % daysOfEra).toNat
  let year := (day - day / 1460 + day / 36524 - day / 146096) / 365
  let dayOfYear := day - (365 * year + year / 4 - year / 100)
  let month := (5 * dayOfYear + 2) / 153
  { year := era * 400 + year + (if month < 10 then 0 else 1)
    month := if month < 10 then month + 3 else month - 9
    day := dayOfYear - (153 * month + 2) / 5 + 1 }

/-- Four digits; a year outside them has a sign. -/
def yearText (year : Int) : String :=
  if 0 ≤ year ∧ year ≤ 9999 then Number.wide 4 year.toNat
  else (if year < 0 then "-" else "+") ++ Number.wide 4 year.natAbs

end CivilDate

namespace Moment

def millisecondsOfDay : Int := 86400000

def firstYear : Int := -262143
def lastYear : Int := 262142

/-- Date, hour and minute; a moment too far away is shown as its number. -/
def text (milliseconds : Int) : String :=
  let date := CivilDate.ofDays (milliseconds / millisecondsOfDay)
  let minutes := (milliseconds % millisecondsOfDay).toNat / 60000
  if firstYear ≤ date.year ∧ date.year ≤ lastYear then
    CivilDate.yearText date.year ++ "-" ++ Number.wide 2 date.month ++ "-" ++ Number.wide 2 date.day ++ " "
      ++ Number.wide 2 (minutes / 60) ++ ":" ++ Number.wide 2 (minutes % 60)
  else toString milliseconds

end Moment
end TradingDesk
