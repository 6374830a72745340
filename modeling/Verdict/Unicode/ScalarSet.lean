import Verdict.Unicode.TableText

/-! Sets of Unicode scalar values, given by the boundaries of their ranges. -/
namespace Verdict

/-- A set of scalar values as the ascending list of values at which membership
changes, the first of them being a member. -/
structure ScalarSet where
  boundaries : List Nat
deriving DecidableEq

namespace ScalarSet

def covers : List Nat → Nat → Bool
  | low :: high :: rest, n => if n < low then false else if n < high then true else covers rest n
  | [low], n => low ≤ n
  | [], _ => false

def contains (s : ScalarSet) (c : Char) : Bool := covers s.boundaries c.toNat

def empty : ScalarSet := ⟨[]⟩

def everything : ScalarSet := ⟨[0]⟩

def range (low high : Nat) : ScalarSet := if low ≤ high then ⟨[low, high + 1]⟩ else empty

def single (c : Char) : ScalarSet := range c.toNat c.toNat

def complement (s : ScalarSet) : ScalarSet :=
  match s.boundaries with
  | 0 :: rest => ⟨rest⟩
  | bounds => ⟨0 :: bounds⟩

/-- Boundaries of a combination of two sets. `a` and `b` tell whether the values just
below the next boundaries belong to the first and to the second set. -/
def combine (f : Bool → Bool → Bool) (a b : Bool) : List Nat → List Nat → List Nat
  | [], [] => []
  | x :: xs, [] => emit a b (!a) b x (combine f (!a) b xs [])
  | [], y :: ys => emit a b a (!b) y (combine f a (!b) [] ys)
  | x :: xs, y :: ys =>
    if x < y then emit a b (!a) b x (combine f (!a) b xs (y :: ys))
    else if y < x then emit a b a (!b) y (combine f a (!b) (x :: xs) ys)
    else emit a b (!a) (!b) x (combine f (!a) (!b) xs ys)
termination_by xs ys => xs.length + ys.length
where
  emit (a b a' b' : Bool) (n : Nat) (rest : List Nat) : List Nat :=
    if f a b == f a' b' then rest else n :: rest

def union (s t : ScalarSet) : ScalarSet :=
  ⟨combine (fun a b => a || b) false false s.boundaries t.boundaries⟩

def inter (s t : ScalarSet) : ScalarSet :=
  ⟨combine (fun a b => a && b) false false s.boundaries t.boundaries⟩

def diff (s t : ScalarSet) : ScalarSet :=
  ⟨combine (fun a b => a && !b) false false s.boundaries t.boundaries⟩

def symmDiff (s t : ScalarSet) : ScalarSet :=
  ⟨combine (fun a b => a != b) false false s.boundaries t.boundaries⟩

def shiftedUp (s : ScalarSet) (n : Nat) : ScalarSet := ⟨s.boundaries.map (· + n)⟩

def shiftedDown (s : ScalarSet) (n : Nat) : ScalarSet := ⟨s.boundaries.map (· - n)⟩

def unions (sets : List ScalarSet) : ScalarSet := sets.foldl union empty

def rangesUpTo (last : Nat) : List Nat → List (Nat × Nat)
  | low :: high :: rest =>
    if last < low then [] else (low, min last (high - 1)) :: rangesUpTo last rest
  | [low] => if last < low then [] else [(low, last)]
  | [] => []

def surrogates : ScalarSet := range 0xd800 0xdfff

def ranges (s : ScalarSet) : List (Nat × Nat) :=
  rangesUpTo 0x10ffff (s.diff surrogates).boundaries

def isAscii (s : ScalarSet) : Bool := s.ranges.all fun r => r.2 < 0x80

def strideBoundaries (low high step : Nat) : List Nat :=
  if step == 1 then [high + 1, low]
  else
    (List.range ((high - low) / step + 1)).foldl (fun bounds k =>
      (low + k * step + 1) :: (low + k * step) :: bounds) []

/-- The boundaries of one written range: a value, two ends, or two ends and a step. -/
def writtenBoundaries : List Nat → List Nat
  | [n] => strideBoundaries n n 1
  | [low, high] => strideBoundaries low high 1
  | [low, high, step] => strideBoundaries low high step
  | _ => []

/-- Reads a set written as ascending ranges of hexadecimal numbers between blanks:
`41-5a` is a range, `aa` a single value, and `100-136/2` every second value. -/
def ofText (s : String) : ScalarSet :=
  ⟨((TableText.groups s).foldl (fun bounds g => writtenBoundaries g ++ bounds) []).reverse⟩

end ScalarSet
end Verdict
