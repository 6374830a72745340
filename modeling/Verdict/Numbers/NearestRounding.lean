import Verdict.Numbers.Binary64

/-! Rounding of exact quotients to the nearest representable binary number, ties to even. -/
namespace Verdict

/-- A binary interchange format without its sign: the width of the fraction, the
exponent of the least positive number, and the magnitude of infinity. -/
structure BinaryFormat where
  fractionBits : Nat
  leastExponent : Int
  infinity : Nat

namespace BinaryFormat

def binary64 : BinaryFormat := ⟨52, -1074, Binary64.infinityMagnitude⟩

def binary32 : BinaryFormat := ⟨23, -149, 0x7f800000⟩

def fullFraction (f : BinaryFormat) : Nat := Nat.pow 2 f.fractionBits

def significand (f : BinaryFormat) (magnitude : Nat) : Nat × Int :=
  let exponent := magnitude / f.fullFraction
  let fraction := magnitude % f.fullFraction
  if exponent = 0 then (fraction, f.leastExponent)
  else (f.fullFraction + fraction, f.leastExponent + exponent - 1)

end BinaryFormat

def roundHalfEven (num den : Nat) : Nat :=
  let q := num / den
  let r := num % den
  if 2 * r < den then q
  else if den < 2 * r then q + 1
  else q + q % 2

def scaleQuotient (base num den : Nat) : Int → Nat × Nat
  | .ofNat k => (num * Nat.pow base k, den)
  | .negSucc k => (num, den * Nat.pow base (k + 1))

/-- The magnitude nearest to the quotient of two positive integers. The unit in
the last place is the largest that leaves a full fraction, but never below the
least positive number, so that a carry into the next exponent needs no case. -/
def BinaryFormat.nearest (f : BinaryFormat) (num den : Nat) : Nat :=
  if num = 0 then 0
  else
    let guess : Int := (num.log2 : Int) - den.log2 - f.fractionBits
    let (n, d) := scaleQuotient 2 num den (-guess)
    let fitted := if n < f.fullFraction * d then guess - 1 else guess
    let unit := max f.leastExponent fitted
    let (n, d) := scaleQuotient 2 num den (-unit)
    min f.infinity ((unit - f.leastExponent).toNat * f.fullFraction + roundHalfEven n d)

namespace Binary64

def ofInt (n : Int) : Binary64 :=
  ofMagnitude (decide (n < 0)) (BinaryFormat.binary64.nearest n.natAbs 1)

end Binary64

/-- The magnitude nearest to `digits * 10 ^ exponent`. Exponents far outside the
format's range are settled by size alone. -/
def BinaryFormat.nearestDecimal (f : BinaryFormat) (digits : Nat) (exponent : Int) : Nat :=
  let size := (Nat.toDigits 10 digits).length + exponent
  if digits = 0 ∨ size < -400 then 0
  else if 400 < size then f.infinity
  else
    let (n, d) := scaleQuotient 10 digits 1 exponent
    f.nearest n d

namespace Binary64

def ofDecimal (negative : Bool) (digits : Nat) (exponent : Int) : Binary64 :=
  ofMagnitude negative (BinaryFormat.binary64.nearestDecimal digits exponent)

/-- A number of the given format is representable here, so this rounding is exact. -/
def ofNarrow (f : BinaryFormat) (negative : Bool) (magnitude : Nat) : Binary64 :=
  if f.infinity ≤ magnitude then infinity negative
  else
    let (m, e) := f.significand magnitude
    let (n, d) := scaleQuotient 2 m 1 e
    ofMagnitude negative (BinaryFormat.binary64.nearest n d)

end Binary64
end Verdict
