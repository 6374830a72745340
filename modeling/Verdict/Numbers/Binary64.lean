/-! Binary floating-point numbers of 64 bits: classes, place on the number line, comparison. -/
namespace Verdict

/-- A binary64 number, given by its encoding: a sign bit, eleven exponent bits
and 52 fraction bits. -/
structure Binary64 where
  bits : UInt64
deriving DecidableEq

namespace Binary64

/-- The encoding without its sign bit. Among numbers of one sign it grows with
the absolute value, one step per representable number. -/
def magnitude (x : Binary64) : Nat := x.bits.toNat % 0x8000000000000000

def isNegative (x : Binary64) : Bool := decide (0x8000000000000000 ≤ x.bits.toNat)

def infinityMagnitude : Nat := 0x7ff0000000000000

def isNaN (x : Binary64) : Bool := decide (infinityMagnitude < x.magnitude)

def isFinite (x : Binary64) : Bool := decide (x.magnitude < infinityMagnitude)

def isZero (x : Binary64) : Bool := x.magnitude == 0

def ofMagnitude (negative : Bool) (magnitude : Nat) : Binary64 :=
  ⟨UInt64.ofNat (magnitude % 0x8000000000000000 + if negative then 0x8000000000000000 else 0)⟩

def zero : Binary64 := ofMagnitude false 0

def nan : Binary64 := ofMagnitude false 0x7ff8000000000000

def infinity (negative : Bool) : Binary64 := ofMagnitude negative infinityMagnitude

/-- The position on the number line: the signed count of representable numbers
between zero and this one. Both zeros stand at position zero. -/
def rank (x : Binary64) : Int := if x.isNegative then -(x.magnitude : Int) else x.magnitude

/-- Numeric equality: no NaN equals anything and the two zeros are equal. -/
def numericEq (x y : Binary64) : Bool := !x.isNaN && !y.isNaN && x.rank == y.rank

def compare? (x y : Binary64) : Option Ordering :=
  if x.isNaN || y.isNaN then none else some (compare x.rank y.rank)

theorem numericEq_symm (x y : Binary64) : x.numericEq y = y.numericEq x := by
  simp only [numericEq, Bool.and_comm (!x.isNaN), BEq.comm (a := x.rank)]

theorem numericEq_trans {x y z : Binary64} (h : x.numericEq y = true) (k : y.numericEq z = true) :
    x.numericEq z = true := by
  simp_all [numericEq]

/-- A number equals itself unless it is NaN. -/
theorem numericEq_self (x : Binary64) : x.numericEq x = !x.isNaN := by
  simp [numericEq]

end Binary64
end Verdict
