import Verdict.Numbers.NearestRounding

/-! The fewest decimal digits that read back as a given binary64 number. -/
namespace Verdict

/-- A positive decimal: `digits * 10 ^ exponent`, the digits without trailing zeros. -/
structure ShortDecimal where
  digits : Nat
  exponent : Int
deriving DecidableEq

inductive TieRule where
  | even | upper
deriving DecidableEq

def TieRule.takesLower : TieRule → Nat → Bool
  | .even, c => c % 2 == 0
  | .upper, _ => false

namespace ShortDecimal

def decimalWidth (n : Nat) : Nat := if n = 0 then 0 else (Nat.toDigits 10 n).length

def leadingExponent (num den : Nat) : Int :=
  if den ≤ num then (decimalWidth (num / den) : Int) - 1
  else -(decimalWidth ((den + num - 1) / num - 1) : Int)

/-- Drops trailing zeros; a number of `fuel` digits has no more than `fuel` of them. -/
def stripZeros : Nat → Nat → Int → ShortDecimal
  | 0, n, e => ⟨n, e⟩
  | fuel + 1, n, e => if n % 10 = 0 then stripZeros fuel (n / 10) (e + 1) else ⟨n, e⟩

/-- The numbers that round to a magnitude form an interval around it. All three
points are counted in quarters of the unit in the last place; just above a power
of two the gap below is half as wide. The ends belong to it for an even significand. -/
structure Interval where
  low : Nat
  mid : Nat
  high : Nat
  closed : Bool
  quarter : Int

def interval (magnitude : Nat) : Interval :=
  let (m, e) := BinaryFormat.binary64.significand magnitude
  let isLeast := m = BinaryFormat.binary64.fullFraction ∧ BinaryFormat.binary64.leastExponent < e
  let gap := if isLeast then 1 else 2
  ⟨4 * m - gap, 4 * m, 4 * m + 2, m % 2 == 0, e - 2⟩

/-- Whether `c` times the grid's unit lies in the interval; the grid's unit is
`den / num` quarters. -/
def Interval.contains (i : Interval) (num den c : Nat) : Bool :=
  if i.closed then i.low * num ≤ c * den && c * den ≤ i.high * num
  else i.low * num < c * den && c * den < i.high * num

def Interval.onGrid? (i : Interval) (tie : TieRule) (k : Int) : Option Nat :=
  let (a, b) := scaleQuotient 2 1 1 i.quarter
  let (num, den) := scaleQuotient 10 a b (-k)
  let c := i.mid * num / den
  let r := i.mid * num % den
  match i.contains num den c, i.contains num den (c + 1) with
  | true, true =>
    some (if 2 * r < den ∨ (2 * r = den ∧ tie.takesLower c) then c else c + 1)
  | true, false => some c
  | false, true => some (c + 1)
  | false, false => none

def Interval.search (i : Interval) (tie : TieRule) (k : Int) : Nat → Option ShortDecimal
  | 0 => none
  | places + 1 =>
    match i.onGrid? tie k with
    | some c => some (stripZeros 20 c k)
    | none => i.search tie (k - 1) places

/-- The shortest decimal of a positive finite magnitude. Seventeen digits always suffice. -/
def ofMagnitude (tie : TieRule) (magnitude : Nat) : ShortDecimal :=
  let i := interval magnitude
  let (num, den) := scaleQuotient 2 i.mid 1 i.quarter
  (i.search tie (leadingExponent num den) 18).getD ⟨0, 0⟩

end ShortDecimal
end Verdict
