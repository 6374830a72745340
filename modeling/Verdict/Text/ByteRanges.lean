/-! Ranges of scalar values as they are encoded: each as sequences of ranges of bytes. -/
namespace Verdict

abbrev ByteRange := Nat × Nat

namespace ByteRange

def spanOf : Nat → Nat
  | 0 => 1
  | k + 1 => 64 * spanOf k

def anyTail (k : Nat) : List ByteRange := List.replicate k (0x80, 0xbf)

/-- The values from `low` to `high` with `k` continuation bytes, the byte in front of
them counted from `first`. Where the ends differ in that byte, what lies between is one
sequence, and the ends are cut on. -/
def sequences (first : Nat) : Nat → Nat → Nat → List (List ByteRange)
  | 0, low, high => [[(first + low, first + high)]]
  | k + 1, low, high =>
    let span := spanOf (k + 1)
    let a := low / span
    let b := high / span
    let tails := fun byte low high =>
      (sequences 0x80 k low high).map fun tail => (first + byte, first + byte) :: tail
    if a == b then tails a (low % span) (high % span)
    else
      let lowCut := low % span != 0
      let highCut := high % span != span - 1
      let middleLow := if lowCut then a + 1 else a
      let middleHigh := if highCut then b - 1 else b
      (if lowCut then tails a (low % span) (span - 1) else [])
        ++ (if middleLow ≤ middleHigh then
              [(first + middleLow, first + middleHigh) :: anyTail (k + 1)] else [])
        ++ (if highCut then tails b 0 (high % span) else [])

/-- The lengths of encodings: what is added to the byte in front, how many bytes follow
it, and the least and greatest values. -/
def lengths : List (Nat × Nat × Nat × Nat) :=
  [(0, 0, 0, 0x7f), (0xc0, 1, 0x80, 0x7ff), (0xe0, 2, 0x800, 0xffff), (0xf0, 3, 0x10000, 0x10ffff)]

def ofValues (low high : Nat) : List (List ByteRange) :=
  lengths.flatMap fun (first, k, least, greatest) =>
    if max low least ≤ min high greatest then
      sequences first k (max low least) (min high greatest)
    else []

end ByteRange
end Verdict
