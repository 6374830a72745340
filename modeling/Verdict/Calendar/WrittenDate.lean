import Verdict.Calendar.DateFields
import Verdict.Numbers.DecimalText

/-! Reading of a written date by a layout. -/
namespace Verdict
namespace WrittenDate

def skipBlanks (s : List Char) : List Char := s.dropWhile ScalarSet.whiteSpace.contains

/-- Between one and `most` digits; a value of 64 bits or more is refused. -/
def digits? (most : Option Nat) (s : List Char) : Option (Nat × Nat × List Char) :=
  let run := s.takeWhile Char.isDigit
  let ds := match most with
    | some n => run.take n
    | none => run
  let value := DecimalNumeral.ofDigits ds
  if ds.isEmpty || 0x8000000000000000 ≤ value then none
  else some (value, ds.length, s.drop ds.length)

def width : DateNumber → Option Nat
  | .year => some 4
  | .isoYear => some 4
  | .ordinal => some 3
  | .nanosecond => some 9
  | .quarter => some 1
  | .weekdayFromSunday => some 1
  | .weekdayFromMonday => some 1
  | .timestamp => none
  | _ => some 2

def isSigned : DateNumber → Bool
  | .year => true
  | .isoYear => true
  | _ => false

/-- A number after any blanks. Only years may have a sign, and any number of digits with it. -/
def number? (which : DateNumber) (s : List Char) : Option (Int × List Char) :=
  let s := skipBlanks s
  match isSigned which, s with
  | true, '-' :: r => (digits? none r).map fun p => (-(p.1 : Int), p.2.2)
  | true, '+' :: r => (digits? none r).map fun p => ((p.1 : Int), p.2.2)
  | _, s => (digits? (width which) s).map fun p => ((p.1 : Int), p.2.2)

def word? (word : String) (s : List Char) : Option (List Char) :=
  let w := word.toList
  if (s.take w.length).map Char.toLower == w then some (s.drop w.length) else none

/-- A name by its first three letters; a long name goes on where its other letters follow. -/
def name? (long : Bool) (s : List Char) : Nat → List (String × String) → Option (Nat × List Char)
  | _, [] => none
  | n, (short, rest) :: names =>
    match word? short s with
    | some r => some (n, if long then (word? rest r).getD r else r)
    | none => name? long s (n + 1) names

def months : List (String × String) :=
  [("jan", "uary"), ("feb", "ruary"), ("mar", "ch"), ("apr", "il"), ("may", ""), ("jun", "e"),
    ("jul", "y"), ("aug", "ust"), ("sep", "tember"), ("oct", "ober"), ("nov", "ember"),
    ("dec", "ember")]

def weekdays : List (String × String) :=
  [("mon", "day"), ("tue", "sday"), ("wed", "nesday"), ("thu", "rsday"), ("fri", "day"),
    ("sat", "urday"), ("sun", "day")]

/-- The offset of a clock from universal time in seconds: a sign, two digits of hours,
and two digits of minutes below 60, possibly set apart by colons or blanks. -/
def offset? (minutesOptional : Bool) (s : List Char) : Option (Int × List Char) :=
  let sign := match s with
    | '+' :: r => some ((1 : Int), r)
    | '-' :: r => some (-1, r)
    | '−' :: r => some (-1, r)
    | _ => none
  match sign with
  | some (sign, a :: b :: r) =>
    if a.isDigit && b.isDigit then
      let hours : Int := DecimalNumeral.ofDigits [a, b]
      let r := r.dropWhile fun c => c == ':' || ScalarSet.whiteSpace.contains c
      match r with
      | c :: d :: rest =>
        if '0' ≤ c && c ≤ '5' && d.isDigit then
          some (sign * (hours * 3600 + DecimalNumeral.ofDigits [c, d] * 60), rest)
        else none
      | [] => if minutesOptional then some (sign * (hours * 3600), []) else none
      | [_] => none
    else none
  | _ => none

def zuluOrOffset? (zuluAllowed minutesOptional : Bool) (s : List Char) :
    Option (Int × List Char) :=
  match zuluAllowed, s with
  | true, 'Z' :: r => some (0, r)
  | true, 'z' :: r => some (0, r)
  | _, s => offset? minutesOptional s

def fraction? (s : List Char) : Option (Int × List Char) :=
  (digits? (some 9) s).map fun p =>
    ((p.1 * Nat.pow 10 (9 - p.2.1) : Nat), p.2.2.dropWhile Char.isDigit)

def fixedFraction? (count : Nat) (s : List Char) : Option (Int × List Char) :=
  match digits? (some count) s with
  | some (v, n, r) => if n = count then some ((v * Nat.pow 10 (9 - n) : Nat), r) else none
  | none => none

def part? (f : DateFields) (s : List Char) : DatePart → Option (DateFields × List Char)
  | .literal l => if l.isPrefixOf s then some (f, s.drop l.length) else none
  | .blanks => some (f, skipBlanks s)
  | .number which => do
    let (n, r) ← number? which s
    (f.set? which n).map (·, r)
  | .monthName long => do
    let (n, r) ← name? long s 1 months
    (f.setMonth? n).map (·, r)
  | .weekdayName long => do
    let (n, r) ← name? long s 0 weekdays
    (f.setWeekday? n).map (·, r)
  | .halfDay =>
    match word? "am" s, word? "pm" s with
    | some r, _ => (f.setHalf? 0).map (·, r)
    | none, some r => (f.setHalf? 1).map (·, r)
    | none, none => none
  | .fraction count =>
    match s with
    | '.' :: r => do
      let (n, r) ← match count with
        | some k => fixedFraction? k r
        | none => fraction? r
      (f.setNanosecond? n).map (·, r)
    | s => some (f, s)
  | .bareFraction count => do
    let (n, r) ← fixedFraction? count s
    (f.setNanosecond? n).map (·, r)
  | .zoneName => some (f, s.dropWhile fun c => !ScalarSet.whiteSpace.contains c)
  | .offset zulu minutesOptional => do
    let (n, r) ← zuluOrOffset? zulu minutesOptional (skipBlanks s)
    (f.setOffset? n).map (·, r)
  | .timeMark =>
    match s with
    | c :: r => if c == 'T' || c == 't' || c == ' ' then some (f, r) else none
    | [] => none
  | .zone => do
    let (n, r) ← match word? "utc" s with
      | some r => some (0, r)
      | none => zuluOrOffset? true false s
    (f.setOffset? n).map (·, r)

def fields? (f : DateFields) : List DatePart → List Char → Option DateFields
  | [], [] => some f
  | [], _ :: _ => none
  | p :: ps, s =>
    match part? f s p with
    | some (f, r) => fields? f ps r
    | none => none

end WrittenDate

/-- The moment a text denotes by a layout: in universal time where the text says an
offset, otherwise as the clock shows it, and at midnight where it says no time. -/
def Moment.read? (layout text : String) : Option Moment :=
  match DateLayout.parts? layout.toList with
  | none => none
  | some parts =>
    match WrittenDate.fields? {} parts text.toList with
    | none => none
    | some f =>
      match f.universalMoment?, f.localMoment? 0, f.date with
      | some m, _, _ => some m
      | none, some m, _ => some m
      | none, none, .found d => some (.midnight d)
      | none, none, _ => none

end Verdict
