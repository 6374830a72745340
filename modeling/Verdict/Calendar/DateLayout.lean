import Verdict.Unicode.BlanksAndDigits

/-! Layouts of written dates: what a layout string asks for, part by part. -/
namespace Verdict

/-- A number in a date, as a layout asks for it. -/
inductive DateNumber where
  | year | century | yearOfCentury
  | isoYear | isoCentury | isoYearOfCentury
  | quarter | month | day | ordinal
  | weekFromSunday | weekFromMonday | isoWeek
  | weekdayFromSunday | weekdayFromMonday
  | hour | hour12 | minute | second | nanosecond | timestamp
deriving DecidableEq

/-- A part of a layout. -/
inductive DatePart where
  | literal (s : List Char)
  | blanks
  | number (n : DateNumber)
  | monthName (long : Bool)
  | weekdayName (long : Bool)
  | halfDay
  /-- Digits after a point; without a count they and the point may be missing. -/
  | fraction (digits : Option Nat)
  | bareFraction (digits : Nat)
  | zoneName
  | offset (zuluAllowed : Bool) (minutesOptional : Bool)
  | timeMark
  /-- An offset, or a letter or word for universal time. -/
  | zone
deriving DecidableEq

namespace DateLayout

def numberOf? : Char → Option DateNumber
  | 'Y' => some .year
  | 'C' => some .century
  | 'y' => some .yearOfCentury
  | 'G' => some .isoYear
  | 'g' => some .isoYearOfCentury
  | 'q' => some .quarter
  | 'm' => some .month
  | 'd' => some .day
  | 'e' => some .day
  | 'j' => some .ordinal
  | 'U' => some .weekFromSunday
  | 'W' => some .weekFromMonday
  | 'V' => some .isoWeek
  | 'w' => some .weekdayFromSunday
  | 'u' => some .weekdayFromMonday
  | 'H' => some .hour
  | 'k' => some .hour
  | 'I' => some .hour12
  | 'l' => some .hour12
  | 'M' => some .minute
  | 'S' => some .second
  | 'f' => some .nanosecond
  | 's' => some .timestamp
  | _ => none

def slashDate : List DatePart :=
  [.number .month, .literal ['/'], .number .day, .literal ['/'], .number .yearOfCentury]

def dashDate : List DatePart :=
  [.number .year, .literal ['-'], .number .month, .literal ['-'], .number .day]

def hourMinute : List DatePart := [.number .hour, .literal [':'], .number .minute]

def clock : List DatePart := hourMinute ++ [.literal [':'], .number .second]

def standard : List DatePart :=
  [.number .year, .blanks, .literal ['-'], .number .month, .blanks, .literal ['-'], .number .day,
    .timeMark, .number .hour, .blanks, .literal [':'], .number .minute, .blanks, .literal [':'],
    .number .second, .fraction none, .blanks, .zone]

def partsOf? : Char → Option (List DatePart)
  | 'A' => some [.weekdayName true]
  | 'a' => some [.weekdayName false]
  | 'B' => some [.monthName true]
  | 'b' => some [.monthName false]
  | 'h' => some [.monthName false]
  | 'D' => some slashDate
  | 'x' => some slashDate
  | 'F' => some dashDate
  | 'R' => some hourMinute
  | 'T' => some clock
  | 'X' => some clock
  | 'c' => some ([.weekdayName false, .blanks, .monthName false, .blanks, .number .day, .blanks]
      ++ clock ++ [.blanks, .number .year])
  | 'r' => some ([.number .hour12, .literal [':'], .number .minute, .literal [':'],
      .number .second, .blanks, .halfDay])
  | 'v' => some [.number .day, .literal ['-'], .monthName false, .literal ['-'], .number .year]
  | 'p' => some [.halfDay]
  | 'P' => some [.halfDay]
  | 'Z' => some [.zoneName]
  | 'z' => some [.offset false false]
  | '+' => some standard
  | 'n' => some [.blanks]
  | 't' => some [.blanks]
  | '%' => some [.literal ['%']]
  | _ => none

/-- The specifier after a percent sign, with the rest of the layout. A padding mark
may stand before a letter that asks for a number. -/
def specifier? : List Char → Option (List DatePart × List Char)
  | '.' :: 'f' :: r => some ([.fraction none], r)
  | '.' :: '3' :: 'f' :: r => some ([.fraction (some 3)], r)
  | '.' :: '6' :: 'f' :: r => some ([.fraction (some 6)], r)
  | '.' :: '9' :: 'f' :: r => some ([.fraction (some 9)], r)
  | '3' :: 'f' :: r => some ([.bareFraction 3], r)
  | '6' :: 'f' :: r => some ([.bareFraction 6], r)
  | '9' :: 'f' :: r => some ([.bareFraction 9], r)
  | ':' :: ':' :: ':' :: 'z' :: r => some ([.offset false false], r)
  | ':' :: ':' :: 'z' :: r => some ([.offset false false], r)
  | ':' :: 'z' :: r => some ([.offset false false], r)
  | '#' :: 'z' :: r => some ([.offset true true], r)
  | c :: r =>
    match numberOf? c with
    | some n => some ([.number n], r)
    | none =>
      match partsOf? c with
      | some parts => some (parts, r)
      | none =>
        if c == '-' || c == '_' || c == '0' then
          match r with
          | d :: r => (numberOf? d).map fun n => ([.number n], r)
          | [] => none
        else none
  | [] => none

theorem length_specifier? {s : List Char} {parts : List DatePart} {r : List Char}
    (h : specifier? s = some (parts, r)) : r.length < s.length := by
  unfold specifier? at h
  split at h <;> grind [Option.map_eq_some_iff]

/-- The parts of a layout, or nothing when a specifier is unknown. Blanks of any kind
and number ask for the same. -/
def parts? : List Char → Option (List DatePart)
  | [] => some []
  | '%' :: r =>
    match _ : specifier? r with
    | some (parts, r') => (parts? r').map (parts ++ ·)
    | none => none
  | c :: r =>
    if ScalarSet.whiteSpace.contains c then (parts? r).map (.blanks :: ·)
    else (parts? r).map (.literal [c] :: ·)
termination_by s => s.length
decreasing_by
  all_goals simp_wf
  have := length_specifier? ‹_›
  omega

end DateLayout
end Verdict
