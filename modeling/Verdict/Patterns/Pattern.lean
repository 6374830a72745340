import Verdict.Patterns.ShortSet

/-! Patterns of text, and whether a text has a part that matches one. -/
namespace Verdict

/-- Where a place stands to the words around it. The half edges look at one side only. -/
inductive WordEdge where
  | boundary | none | start | finish | startHalf | finishHalf
deriving DecidableEq

/-- Conditions on a place between two characters. Lines end at line feeds, or, with
carriage returns, at these too, where the two together are one line end. Words are
made of ASCII characters only or of all. -/
inductive Anchor where
  | textStart | textEnd
  | lineStart (carriageReturns : Bool)
  | lineEnd (carriageReturns : Bool)
  | word (edge : WordEdge) (ascii : Bool)
deriving DecidableEq

/-- A pattern. A repetition without a greatest count has none. -/
inductive Pattern where
  | empty
  | one (set : ScalarSet)
  | anchor (a : Anchor)
  | capture (p : Pattern)
  | seq (p q : Pattern)
  | alt (p q : Pattern)
  | repeated (p : Pattern) (least : Nat) (most : Option Nat)
deriving DecidableEq

/-- A place in a text: how many characters stand before it, the last of them, and the rest. -/
structure Place where
  offset : Nat
  before : Option Char
  rest : List Char

namespace Place

def start (text : List Char) : Place := ⟨0, none, text⟩

def step? (set : ScalarSet) (p : Place) : Option Place :=
  match p.rest with
  | c :: rest => if set.contains c then some ⟨p.offset + 1, some c, rest⟩ else none
  | [] => none

def allFrom (offset : Nat) (before : Option Char) : List Char → List Place
  | [] => [⟨offset, before, []⟩]
  | c :: rest => ⟨offset, before, c :: rest⟩ :: allFrom (offset + 1) (some c) rest

def isWordChar (ascii : Bool) : Option Char → Bool
  | some c => (if ascii then LetterSet.asciiMembers .word else LetterSet.members .word).contains c
  | none => false

def hasEdge (before after : Bool) : WordEdge → Bool
  | .boundary => before != after
  | .none => before == after
  | .start => !before && after
  | .finish => before && !after
  | .startHalf => !before
  | .finishHalf => !after

def satisfies (p : Place) : Anchor → Bool
  | .textStart => p.before.isNone
  | .textEnd => p.rest.isEmpty
  | .lineStart false => p.before.all (· == '\n')
  | .lineStart true =>
    p.before.all fun c => c == '\n' || (c == '\r' && p.rest.head? != some '\n')
  | .lineEnd false => p.rest.head?.all (· == '\n')
  | .lineEnd true =>
    p.rest.head?.all fun c => c == '\r' || (c == '\n' && p.before != some '\r')
  | .word edge ascii => hasEdge (isWordChar ascii p.before) (isWordChar ascii p.rest.head?) edge

def fresh (old : List Place) : List Place → List Place
  | [] => []
  | p :: ps =>
    if old.any fun q => q.offset == p.offset then fresh old ps else p :: fresh (p :: old) ps

end Place

namespace Pattern

def exactly (step : List Place → List Place) : Nat → List Place → List Place
  | 0, ps => ps
  | n + 1, ps => exactly step n (step ps)

/-- The places after at most `n` matches; places already reached are not gone on from twice. -/
def upTo (step : List Place → List Place) : Nat → List Place → List Place → List Place
  | 0, seen, _ => seen
  | n + 1, seen, front =>
    match Place.fresh seen (step front) with
    | [] => seen
    | p :: ps => upTo step n (seen ++ p :: ps) (p :: ps)

/-- The places where a match that begins at one of the given places can end. Without
a greatest count, no more rounds are needed than there are places left. -/
def ends : Pattern → List Place → List Place
  | .empty, ps => ps
  | .one set, ps => ps.filterMap (Place.step? set)
  | .anchor a, ps => ps.filter fun p => p.satisfies a
  | .capture p, ps => p.ends ps
  | .seq p q, ps => q.ends (p.ends ps)
  | .alt p q, ps =>
    let left := p.ends ps
    left ++ Place.fresh left (q.ends ps)
  | .repeated p least most, ps =>
    let front := exactly p.ends least ps
    let rounds := match most with
      | some n => n - least
      | none => (front.map fun q => q.rest.length + 1).foldl max 0
    upTo p.ends rounds front front

def matchesIn (p : Pattern) (text : String) : Bool :=
  !(p.ends (Place.allFrom 0 none text.toList)).isEmpty

end Pattern
end Verdict
