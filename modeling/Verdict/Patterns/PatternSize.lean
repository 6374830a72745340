import Verdict.Patterns.Pattern
import Verdict.Text.ByteRanges

/-! The room that an automaton for a pattern takes, which limits the patterns that are
accepted. -/
namespace Verdict

/-- Automata read a text from its start, or from its end. Only the former note where
groups begin and end. -/
inductive ReadingDirection where
  | forward | backward
deriving DecidableEq

namespace PatternSize

def state : Nat := 32

def readingStep : Nat := 8

def silentStep : Nat := 4

def branches : Nat → List (List ByteRange) → Nat
  | 0, _ => 0
  | n + 1, sequences =>
    let groups := (sequences.filter fun s => !s.isEmpty).splitBy fun s t => s.head? == t.head?
    (groups.map fun g => 1 + branches n (g.map List.tail)).foldl Nat.add 0

/-- A state that reads a byte: its steps, with the number of the state that each leads to. -/
abbrev ReadingState := List (ByteRange × Nat)

/-- The states in which all sequences of at most `n` ranges are read, added to those
already there; states that read the same are one. The result is the number of the
first, zero being the last. -/
def readers : Nat → List ReadingState → List (List ByteRange) → List ReadingState × Nat
  | 0, known, _ => (known, 0)
  | n + 1, known, sequences =>
    match sequences.filter fun s => !s.isEmpty with
    | [] => (known, 0)
    | sequences =>
      let groups := sequences.splitBy fun s t => s.head? == t.head?
      let (known, steps) := groups.foldl
        (fun (acc : List ReadingState × ReadingState) g =>
          let (known, target) := readers n acc.1 (g.map List.tail)
          (known, (g.head?.bind List.head?).toList.map (·, target) ++ acc.2))
        (known, [])
      match known.findIdx? (· == steps) with
      | some i => (known, known.length - i)
      | none => (steps :: known, known.length + 1)

/-- The room for reading any of the sequences. Read backward, equal beginnings of
adjacent ones are kept together; read forward, equal ends as well. -/
def ofSequences (sequences : List (List ByteRange)) : ReadingDirection → Nat
  | .forward =>
    ((readers 4 [] sequences).1.map fun steps => state + readingStep * steps.length).foldl
      Nat.add state
  | .backward => 2 * state + silentStep * sequences.length + state * branches 4 sequences

def ofSet (d : ReadingDirection) (s : ScalarSet) : Nat :=
  let ranges := s.ranges
  let sequences := ranges.flatMap fun r => ByteRange.ofValues r.1 r.2
  if ranges.isEmpty then state
  else if ranges.length == 1 && ranges.all fun r => r.1 == r.2 then
    state * sequences.flatten.length
  else if s.isAscii then 2 * state + readingStep * ranges.length
  else ofSequences sequences d

def leastLength : Pattern → Option Nat
  | .empty => some 0
  | .one set => if set.ranges.isEmpty then none else some 1
  | .anchor _ => some 0
  | .capture p => leastLength p
  | .seq p q =>
    match leastLength p, leastLength q with
    | some m, some n => some (m + n)
    | _, _ => none
  | .alt p q =>
    match leastLength p, leastLength q with
    | some m, some n => some (min m n)
    | _, _ => none
  | .repeated p least _ => (leastLength p).map (· * least)

def ofRepetition (n : Nat) (readsSome : Bool) (least : Nat) (most : Option Nat) : Nat :=
  let loop := state + 2 * silentStep
  match most with
  | none =>
    if 0 < least then least * n + loop
    else if readsSome then n + loop
    else n + 2 * loop + state
  | some most =>
    if least == most then least * n
    else if most == 1 then n + loop + state
    else (if least == 0 then state else least * n) + state + (most - least) * (n + loop)

/-- The size of the automaton for a pattern. A chain of alternatives has one state in
which they part and one in which they meet; `inChoice` tells that these are there. -/
def ofPattern (d : ReadingDirection) (inChoice : Bool) : Pattern → Nat
  | .alt p q =>
    (if inChoice then 0 else 2 * state) + ofPattern d true p + ofPattern d true q
  | .empty => way + state
  | .one set => way + ofSet d set
  | .anchor _ => way + state
  | .capture p => way + ofPattern d false p + (if d == .forward then 2 * state else 0)
  | .seq p q => way + ofPattern d false p + ofPattern d false q
  | .repeated p least most =>
    way + ofRepetition (ofPattern d false p) ((leastLength p).any (0 < ·)) least most
where
  way : Nat := if inChoice then silentStep else 0

def frame : ReadingDirection → Nat
  | .forward => 6 * state + 2 * readingStep
  | .backward => 4 * state + 2 * readingStep

def greatest : Nat := 10 * 1024 * 1024

def fits (p : Pattern) : Bool :=
  [ReadingDirection.forward, .backward].all fun d => frame d + ofPattern d false p ≤ greatest

end PatternSize
end Verdict
