import Verdict.Calendar.DateLayout
import Verdict.Calendar.Moment

/-! Fields of a written date, and the day, time and moment they determine together. -/
namespace Verdict

/-- What a text has said about a date so far. A half day counts twelve hours. -/
structure DateFields where
  year : Option Int := none
  century : Option Int := none
  yearOfCentury : Option Int := none
  isoYear : Option Int := none
  isoCentury : Option Int := none
  isoYearOfCentury : Option Int := none
  quarter : Option Int := none
  month : Option Int := none
  day : Option Int := none
  ordinal : Option Int := none
  weekFromSunday : Option Int := none
  weekFromMonday : Option Int := none
  isoWeek : Option Int := none
  weekday : Option Int := none
  half : Option Int := none
  hourOfHalf : Option Int := none
  minute : Option Int := none
  second : Option Int := none
  nanosecond : Option Int := none
  timestamp : Option Int := none
  offset : Option Int := none

namespace DateFields

/-- A field may be said twice only with the same value. -/
def agree? (old : Option Int) (new : Int) : Option (Option Int) :=
  match old with
  | some v => if v = new then some old else none
  | none => some (some new)

def within? (low high : Int) (old : Option Int) (new : Int) : Option (Option Int) :=
  if low ≤ new ∧ new ≤ high then agree? old new else none

def setHalf? (f : DateFields) (half : Int) : Option DateFields :=
  (agree? f.half half).map fun v => { f with half := v }

def setHourOfHalf? (f : DateFields) (hour : Int) : Option DateFields :=
  (agree? f.hourOfHalf hour).map fun v => { f with hourOfHalf := v }

/-- An hour says which half of the day it is in and which hour of that half it is. -/
def setHour? (f : DateFields) (hour : Int) : Option DateFields :=
  if 0 ≤ hour ∧ hour ≤ 23 then (f.setHalf? (hour / 12)).bind fun f => f.setHourOfHalf? (hour % 12)
  else none

def setMonth? (f : DateFields) (month : Int) : Option DateFields :=
  (within? 1 12 f.month month).map fun v => { f with month := v }

def setWeekday? (f : DateFields) (weekday : Int) : Option DateFields :=
  (agree? f.weekday weekday).map fun v => { f with weekday := v }

def setNanosecond? (f : DateFields) (n : Int) : Option DateFields :=
  (within? 0 999999999 f.nanosecond n).map fun v => { f with nanosecond := v }

def setOffset? (f : DateFields) (n : Int) : Option DateFields :=
  (agree? f.offset n).map fun v => { f with offset := v }

def setYear? (f : DateFields) (n : Int) : Option DateFields :=
  (within? (-2147483648) 2147483647 f.year n).map fun v => { f with year := v }

def setOrdinal? (f : DateFields) (n : Int) : Option DateFields :=
  (within? 1 366 f.ordinal n).map fun v => { f with ordinal := v }

def setMinute? (f : DateFields) (n : Int) : Option DateFields :=
  (within? 0 59 f.minute n).map fun v => { f with minute := v }

def setSecond? (f : DateFields) (n : Int) : Option DateFields :=
  (within? 0 60 f.second n).map fun v => { f with second := v }

def set? (f : DateFields) (which : DateNumber) (n : Int) : Option DateFields :=
  match which with
  | .year => f.setYear? n
  | .century => (within? 0 2147483647 f.century n).map fun v => { f with century := v }
  | .yearOfCentury => (within? 0 99 f.yearOfCentury n).map fun v => { f with yearOfCentury := v }
  | .isoYear => (within? (-2147483648) 2147483647 f.isoYear n).map fun v => { f with isoYear := v }
  | .isoCentury => (within? 0 2147483647 f.isoCentury n).map fun v => { f with isoCentury := v }
  | .isoYearOfCentury =>
    (within? 0 99 f.isoYearOfCentury n).map fun v => { f with isoYearOfCentury := v }
  | .quarter => (within? 1 4 f.quarter n).map fun v => { f with quarter := v }
  | .month => f.setMonth? n
  | .day => (within? 1 31 f.day n).map fun v => { f with day := v }
  | .ordinal => f.setOrdinal? n
  | .weekFromSunday => (within? 0 53 f.weekFromSunday n).map fun v => { f with weekFromSunday := v }
  | .weekFromMonday => (within? 0 53 f.weekFromMonday n).map fun v => { f with weekFromMonday := v }
  | .isoWeek => (within? 1 53 f.isoWeek n).map fun v => { f with isoWeek := v }
  | .weekdayFromSunday => if 0 ≤ n ∧ n ≤ 6 then f.setWeekday? ((n + 6) % 7) else none
  | .weekdayFromMonday => if 1 ≤ n ∧ n ≤ 7 then f.setWeekday? (n - 1) else none
  | .hour => f.setHour? n
  | .hour12 => if 1 ≤ n ∧ n ≤ 12 then f.setHourOfHalf? (n % 12) else none
  | .minute => f.setMinute? n
  | .second => f.setSecond? n
  | .nanosecond => f.setNanosecond? n
  | .timestamp => (agree? f.timestamp n).map fun v => { f with timestamp := v }

def allows (field : Option Int) (n : Int) : Bool := field.all (· == n)

/-- A year from a full year, a century and a year of the century; outer `none` when
they disagree or do not determine one. Two digits alone mean 1970 to 2069. -/
def resolveYear : Option Int → Option Int → Option Int → Option (Option Int)
  | y, none, none => some y
  | some y, century, rest =>
    if 0 ≤ y ∧ allows century (y / 100) ∧ allows rest (y % 100) then some (some y) else none
  | none, some century, some rest => some (some (century * 100 + rest))
  | none, none, some rest => some (some (rest + if rest < 70 then 2000 else 1900))
  | none, some _, none => none

def allowsCentury (century rest : Option Int) (y : Int) : Bool :=
  if 0 ≤ y then allows century (y / 100) && allows rest (y % 100)
  else century.isNone && rest.isNone

def allowsCivil (f : DateFields) (d : Date) : Bool :=
  allows f.year d.year && allowsCentury f.century f.yearOfCentury d.year
    && allows f.month d.month && allows f.day d.dayOfMonth

def allowsIsoWeek (f : DateFields) (d : Date) : Bool :=
  let (y, w) := d.isoWeek
  allows f.isoYear y && allowsCentury f.isoCentury f.isoYearOfCentury y
    && allows f.isoWeek w && allows f.weekday d.weekday

def allowsOrdinal (f : DateFields) (d : Date) : Bool :=
  allows f.ordinal d.ordinal && allows f.weekFromSunday (d.weekFrom 6)
    && allows f.weekFromMonday (d.weekFrom 0)

def allowsQuarter (f : DateFields) (d : Date) : Bool :=
  allows f.quarter ((d.month - 1) / 3 + 1 : Nat)

def allowsDate (f : DateFields) (d : Date) : Bool :=
  f.allowsCivil d && f.allowsIsoWeek d && f.allowsOrdinal d && f.allowsQuarter d

/-- The day from the first group of fields that determines one: month and day, day of
the year, week and weekday. -/
def candidate? (f : DateFields) (year isoYear : Option Int) : Option Date :=
  match year, f.month, f.day with
  | some y, some m, some d => Date.ofCivil? y m.toNat d.toNat
  | _, _, _ =>
    match year, f.ordinal with
    | some y, some n => Date.ofOrdinal? y n
    | _, _ =>
      match year, f.weekFromSunday, f.weekday with
      | some y, some w, some d => Date.ofWeekFrom? 6 y w d.toNat
      | _, _, _ =>
        match year, f.weekFromMonday, f.weekday with
        | some y, some w, some d => Date.ofWeekFrom? 0 y w d.toNat
        | _, _, _ =>
          match isoYear, f.isoWeek, f.weekday with
          | some y, some w, some d => Date.ofIsoWeek? y w d.toNat
          | _, _, _ => none

/-- Whether the fields contain a group that determines a day, and no year that
contradicts itself. -/
inductive DateOutcome where
  | found (d : Date)
  | impossible
  | incomplete

/-- The day the fields determine; every field said must agree with it. -/
def date (f : DateFields) : DateOutcome :=
  match resolveYear f.year f.century f.yearOfCentury,
      resolveYear f.isoYear f.isoCentury f.isoYearOfCentury with
  | some year, some isoYear =>
    let determined :=
      (year.isSome && ((f.month.isSome && f.day.isSome) || f.ordinal.isSome
        || (f.weekFromSunday.isSome && f.weekday.isSome)
        || (f.weekFromMonday.isSome && f.weekday.isSome)))
      || (isoYear.isSome && f.isoWeek.isSome && f.weekday.isSome)
    if !determined then .incomplete
    else
      match f.candidate? year isoYear with
      | some d => if f.allowsDate d then .found d else .impossible
      | none => .impossible
  | none, _ =>
    if f.year.isNone && f.yearOfCentury.isNone then .incomplete else .impossible
  | _, none =>
    if f.isoYear.isNone && f.isoYearOfCentury.isNone then .incomplete else .impossible

/-- Second of the day and fraction. Seconds may be missing, and with them the
fraction; second 60 is a leap second. -/
def time? (f : DateFields) : Option (Nat × Nat) :=
  match f.half, f.hourOfHalf, f.minute with
  | some half, some hour, some minute =>
    if f.second.isNone && f.nanosecond.isSome then none
    else
      let s := f.second.getD 0
      let (s, leap) := if s = 60 then (59, 1000000000) else (s, 0)
      some ((((half * 12 + hour) * 60 + minute) * 60 + s).toNat,
        (leap + f.nanosecond.getD 0).toNat)
  | _, _, _ => none

/-- Fills in what a timestamp says where day or time are incomplete. A said second 60
is the leap second before the timestamp. -/
def ofTimestamp? (f : DateFields) (timestamp offset : Int) : Option Moment := do
  let m := Moment.ofSeconds (timestamp + offset) 0
  if !m.inRange then none
  let m ← if f.second = some 60 then
      match m.second % 60 with
      | 59 => some m
      | 0 => some (m.minusSeconds 1)
      | _ => none
    else some m
  let f ← if f.second = some 60 then some f else f.setSecond? (m.second % 60 : Nat)
  let f ← f.setYear? m.date.year
  let f ← f.setOrdinal? m.date.ordinal
  let f ← f.setHour? (m.second / 3600 : Nat)
  let f ← f.setMinute? (m.second / 60 % 60 : Nat)
  match f.date, f.time? with
  | .found d, some (second, nano) => some ⟨d, second, nano⟩
  | _, _ => none

/-- The local moment the fields determine when the clock is `offset` seconds ahead. A
timestamp must agree with it, where a leap second may be off by one. -/
def localMoment? (f : DateFields) (offset : Int) : Option Moment :=
  match f.date, f.time? with
  | .found d, some (second, nano) =>
    let m : Moment := ⟨d, second, nano⟩
    match f.timestamp with
    | none => some m
    | some t =>
      let s := m.seconds - offset
      if t = s ∨ (1000000000 ≤ nano ∧ t = s + 1) then some m else none
  | .impossible, _ => none
  | _, _ =>
    match f.timestamp with
    | some t => f.ofTimestamp? t offset
    | none => none

def universalMoment? (f : DateFields) : Option Moment :=
  let offset := match f.offset, f.timestamp with
    | some o, _ => some o
    | none, some _ => some 0
    | none, none => none
  match offset with
  | none => none
  | some o =>
    match f.localMoment? o with
    | none => none
    | some m =>
      let u := m.minusSeconds o
      if -86400 < o ∧ o < 86400 ∧ u.inRange then some u else none

end DateFields
end Verdict
