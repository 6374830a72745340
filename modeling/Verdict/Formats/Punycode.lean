/-! Unicode text in the letters, digits and hyphens of host names. -/
namespace Verdict
namespace Punycode

def digitValue? (c : Char) : Option Nat :=
  if 'a' ≤ c && c ≤ 'z' then some (c.toNat - 'a'.toNat)
  else if 'A' ≤ c && c ≤ 'Z' then some (c.toNat - 'A'.toNat)
  else if c.isDigit then some (c.toNat - '0'.toNat + 26)
  else none

def threshold (place bias : Nat) : Nat :=
  if place ≤ bias then 1 else if bias + 26 ≤ place then 26 else place - bias

/-- Scales a step down until it fits the range of one digit; each round lowers it. -/
def scaleDown (delta places : Nat) : Nat × Nat :=
  if 455 < delta then scaleDown (delta / 35) (places + 36) else (delta, places)
termination_by delta
decreasing_by exact Nat.div_lt_self (by omega) (by omega)

def adapt (delta length : Nat) (first : Bool) : Nat :=
  let halved := if first then delta / 700 else delta / 2
  let (delta, places) := scaleDown (halved + halved / length) 0
  places + 36 * delta / (delta + 38)

/-- A decoding under way: the text so far, the least value it may still receive, where
the last one went, and the number being read: value, weight and place of its next digit. -/
structure State where
  text : List Char
  next : Nat
  index : Nat
  bias : Nat
  step : Nat
  weight : Nat
  place : Nat

def start (text : List Char) : State := ⟨text, 0x80, 0, 72, 0, 1, 36⟩

/-- Puts the character in that the finished step tells. -/
def State.insert? (s : State) : Option State :=
  let length := s.text.length + 1
  let position := s.index + s.step
  let value := s.next + position / length
  let index := position % length
  if 0x110000 ≤ value || (0xd800 ≤ value && value < 0xe000) then none
  else
    some ⟨s.text.take index ++ Char.ofNat value :: s.text.drop index, value, index + 1,
      adapt s.step length (s.index == 0), 0, 1, 36⟩

def run? (s : State) : List Char → Option (List Char)
  | [] => if s.place == 36 then some s.text else none
  | c :: rest =>
    match digitValue? c with
    | none => none
    | some d =>
      let s := { s with step := s.step + d * s.weight }
      let t := threshold s.place s.bias
      if d < t then
        match s.insert? with
        | some s => run? s rest
        | none => none
      else run? { s with weight := s.weight * (36 - t), place := s.place + 36 } rest

/-- The plain characters up to the last hyphen, and what follows it. A hyphen with
nothing before it parts nothing, and is no digit. -/
def cut (s : List Char) : List Char × List Char :=
  let tail := (s.reverse.takeWhile (· != '-')).reverse
  if s.length ≤ tail.length + 1 then ([], s)
  else (s.take (s.length - tail.length - 1), tail)

def decode? (s : List Char) : Option (List Char) :=
  let (plain, digits) := cut s
  if plain.all fun c => c.toNat < 0x80 then run? (start plain) digits else none

end Punycode
end Verdict
