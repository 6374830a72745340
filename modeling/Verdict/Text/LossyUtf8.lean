/-! Decoding of bytes as UTF-8 in which every ill-formed part becomes a replacement character. -/
namespace Verdict
namespace LossyUtf8

/-- A sequence that has begun: the bits read so far, the number of bytes still owed,
and the range the next of them must lie in. -/
structure Pending where
  bits : Nat
  owed : Nat
  low : Nat
  high : Nat

def replacement : Char := '\ufffd'

def start (b : Nat) : List Char × Option Pending :=
  if b < 0x80 then ([Char.ofNat b], none)
  else if b < 0xc2 then ([replacement], none)
  else if b < 0xe0 then ([], some ⟨b % 0x20, 1, 0x80, 0xbf⟩)
  else if b < 0xf0 then
    ([], some ⟨b % 0x10, 2, if b = 0xe0 then 0xa0 else 0x80, if b = 0xed then 0x9f else 0xbf⟩)
  else if b < 0xf5 then
    ([], some ⟨b % 0x08, 3, if b = 0xf0 then 0x90 else 0x80, if b = 0xf4 then 0x8f else 0xbf⟩)
  else ([replacement], none)

/-- One byte more. A byte that does not continue the pending sequence ends it as
ill-formed and is read afresh. -/
def feed : Option Pending → Nat → List Char × Option Pending
  | none, b => start b
  | some p, b =>
    if p.low ≤ b ∧ b ≤ p.high then
      let bits := p.bits * 0x40 + b % 0x40
      if p.owed ≤ 1 then ([Char.ofNat bits], none) else ([], some ⟨bits, p.owed - 1, 0x80, 0xbf⟩)
    else
      let (cs, next) := start b
      (replacement :: cs, next)

def decodeFrom : Option Pending → List UInt8 → List Char
  | none, [] => []
  | some _, [] => [replacement]
  | state, b :: rest =>
    let (cs, next) := feed state b.toNat
    cs ++ decodeFrom next rest

end LossyUtf8

def lossyText (bytes : List UInt8) : String := String.ofList (LossyUtf8.decodeFrom none bytes)

end Verdict
