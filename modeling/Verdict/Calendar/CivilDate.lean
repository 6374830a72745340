/-! Days of the proleptic Gregorian calendar: years, months, weekdays and weeks. -/
namespace Verdict

/-- A day, counted from the first of January 1970. -/
structure Date where
  day : Int
deriving DecidableEq

namespace Date

def isLeapYear (year : Int) : Bool :=
  year % 4 == 0 && (year % 100 != 0 || year % 400 == 0)

def daysBeforeYear (year : Int) : Int :=
  let p := year - 1
  365 * p + p / 4 - p / 100 + p / 400

def epochOffset : Int := 719162

def monthLengths (year : Int) : List Nat :=
  [31, if isLeapYear year then 29 else 28, 31, 30, 31, 30, 31, 31, 30, 31, 30, 31]

def yearLength (year : Int) : Nat := if isLeapYear year then 366 else 365

def firstYear : Int := -262143

def lastYear : Int := 262142

def ofOrdinal? (year : Int) (ordinal : Int) : Option Date :=
  if firstYear ≤ year ∧ year ≤ lastYear ∧ 1 ≤ ordinal ∧ ordinal ≤ yearLength year then
    some ⟨daysBeforeYear year - epochOffset + ordinal - 1⟩
  else none

def ofCivil? (year : Int) (month day : Nat) : Option Date :=
  match (monthLengths year)[month - 1]? with
  | some length =>
    if 1 ≤ month ∧ 1 ≤ day ∧ day ≤ length then
      ofOrdinal? year (((monthLengths year).take (month - 1)).foldl Nat.add 0 + day : Nat)
    else none
  | none => none

def least : Date := ⟨daysBeforeYear firstYear - epochOffset⟩

def greatest : Date := ⟨daysBeforeYear (lastYear + 1) - epochOffset - 1⟩

/-- The year. The mean length of a year gives it up to one. -/
def year (d : Date) : Int :=
  let n := d.day + epochOffset
  let y := n * 400 / 146097 + 1
  if n < daysBeforeYear y then y - 1
  else if daysBeforeYear (y + 1) ≤ n then y + 1
  else y

def ordinal (d : Date) : Int := d.day + epochOffset - daysBeforeYear d.year + 1

/-- Month and day of the month of the `n`-th day, from 1, counted from the start of a month. -/
def splitMonths (month : Nat) : List Nat → Int → Nat × Nat
  | [], n => (month, n.toNat)
  | length :: rest, n =>
    if n ≤ length then (month, n.toNat) else splitMonths (month + 1) rest (n - length)

def monthDay (d : Date) : Nat × Nat := splitMonths 1 (monthLengths d.year) d.ordinal

def month (d : Date) : Nat := d.monthDay.1

def dayOfMonth (d : Date) : Nat := d.monthDay.2

def weekday (d : Date) : Nat := ((d.day + 3) % 7).toNat

/-- The number of the week in the year when weeks begin on the given weekday; days
before the first such weekday are in week zero. -/
def weekFrom (start : Nat) (d : Date) : Int :=
  (d.ordinal - ((d.weekday + 7 - start) % 7 : Nat) + 6) / 7

/-- The Monday of the first week by the rule that a week belongs to the year of its Thursday. -/
def firstIsoMonday (year : Int) : Int :=
  let fourth := daysBeforeYear year - epochOffset + 3
  fourth - (fourth + 3) % 7

/-- Year and number of the week that belongs to the year of its Thursday. -/
def isoWeek (d : Date) : Int × Int :=
  let y : Int := (Date.mk (d.day + 3 - d.weekday)).year
  (y, (d.day - firstIsoMonday y) / 7 + 1)

def ofIsoWeek? (year week : Int) (weekday : Nat) : Option Date :=
  let weeks := (firstIsoMonday (year + 1) - firstIsoMonday year) / 7
  let d : Date := ⟨firstIsoMonday year + 7 * (week - 1) + weekday⟩
  if firstYear ≤ year ∧ year ≤ lastYear ∧ 1 ≤ week ∧ week ≤ weeks
      ∧ least.day ≤ d.day ∧ d.day ≤ greatest.day then some d
  else none

def ofWeekFrom? (start : Nat) (year week : Int) (weekday : Nat) : Option Date :=
  match ofOrdinal? year 1 with
  | some first =>
    let lead := (start + 7 - first.weekday) % 7
    let offset := (weekday + 7 - start) % 7
    ofOrdinal? year (1 + lead + (week - 1) * 7 + offset)
  | none => none

end Date
end Verdict
