import Verdict.Calendar.CivilDate

/-! Points in time to the nanosecond, their order, and their text. -/
namespace Verdict

/-- A time of a day. A number of nanoseconds of a whole second or more is a leap
second, which follows the second before it. -/
structure Moment where
  date : Date
  second : Nat
  nano : Nat
deriving DecidableEq

namespace Moment

def midnight (d : Date) : Moment := ⟨d, 0, 0⟩

def least : Moment := midnight .least

def greatest : Moment := ⟨.greatest, 86399, 999999999⟩

def ofSeconds (seconds : Int) (nano : Nat) : Moment :=
  ⟨⟨seconds / 86400⟩, (seconds % 86400).toNat, nano⟩

/-- Seconds since the start of 1970; the fraction does not count. -/
def seconds (m : Moment) : Int := m.date.day * 86400 + m.second

def inRange (m : Moment) : Bool :=
  Date.least.day ≤ m.date.day && m.date.day ≤ Date.greatest.day

def minusSeconds (m : Moment) (s : Int) : Moment := ofSeconds (m.seconds - s) m.nano

def compare (a b : Moment) : Ordering :=
  (Ord.compare a.date.day b.date.day).then
    ((Ord.compare a.second b.second).then (Ord.compare a.nano b.nano))

end Moment

namespace CalendarText

def padded (width n : Nat) : String :=
  let ds := Nat.toDigits 10 n
  String.ofList (List.replicate (width - ds.length) '0' ++ ds)

/-- Four digits for the years 0 to 9999, a sign and at least four digits for the others. -/
def year (y : Int) : String :=
  if 0 ≤ y ∧ y ≤ 9999 then padded 4 y.toNat
  else (if y < 0 then "-" else "+") ++ padded 4 y.natAbs

/-- A fraction of a second with no digit, or with three, six or nine. -/
def fraction (nano : Nat) : String :=
  if nano = 0 then ""
  else if nano % 1000000 = 0 then "." ++ padded 3 (nano / 1000000)
  else if nano % 1000 = 0 then "." ++ padded 6 (nano / 1000)
  else "." ++ padded 9 nano

def time (m : Moment) : String :=
  let leap := m.nano / 1000000000
  padded 2 (m.second / 3600) ++ ":" ++ padded 2 (m.second / 60 % 60) ++ ":"
    ++ padded 2 (m.second % 60 + leap) ++ fraction (m.nano % 1000000000)

end CalendarText

def Date.render (d : Date) : String :=
  let (month, day) := d.monthDay
  CalendarText.year d.year ++ "-" ++ CalendarText.padded 2 month ++ "-" ++ CalendarText.padded 2 day

def Moment.render (separator : String) (m : Moment) : String :=
  m.date.render ++ separator ++ CalendarText.time m

end Verdict
