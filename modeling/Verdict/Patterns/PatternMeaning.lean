import Verdict.Patterns.PatternReader
import Verdict.Patterns.PatternSize
import Verdict.Patterns.PropertyName

/-! What written patterns mean under the options in force. -/
namespace Verdict

/-- Options in force at a point of a written pattern. Without `unicode` a pattern knows
ASCII characters only. -/
structure PatternOptions where
  anyCase : Bool := false
  manyLines : Bool := false
  dotAll : Bool := false
  unicode : Bool := true
  carriageReturns : Bool := false

namespace PatternOptions

/-- Options that decide only which of several matches is found change nothing. -/
def change (o : PatternOptions) : PatternOption × Bool → PatternOptions
  | (.anyCase, on) => { o with anyCase := on }
  | (.manyLines, on) => { o with manyLines := on }
  | (.dotAll, on) => { o with dotAll := on }
  | (.unicode, on) => { o with unicode := on }
  | (.carriageReturns, on) => { o with carriageReturns := on }
  | (.swappedGreed, _) | (.verbose, _) => o

def apply (o : PatternOptions) (changes : OptionChanges) : PatternOptions := changes.foldl change o

def asciiClose (s : ScalarSet) : ScalarSet :=
  .unions [s, (s.inter (.ofText "41-5a")).shiftedUp 32, (s.inter (.ofText "61-7a")).shiftedDown 32]

def close (o : PatternOptions) (s : ScalarSet) : ScalarSet :=
  if !o.anyCase then s else if o.unicode then LetterCase.close s else asciiClose s

/-- A set that may be complemented; without `unicode` it is left with ASCII characters. -/
def complemented? (o : PatternOptions) (negated : Bool) (s : ScalarSet) : Option ScalarSet :=
  let s := if negated then s.complement else s
  if o.unicode || s.isAscii then some s else none

def memberChar? (o : PatternOptions) (c : WrittenChar) : Option Char :=
  if o.unicode || c.char.toNat < 0x80 then some c.char else none

def property? : WrittenProperty → Option ScalarSet
  | .named name => PropertyName.members? name
  | .valued name value => PropertyName.valueMembers? name value

def combine : SetOperation → ScalarSet → ScalarSet → ScalarSet
  | .intersection => .inter
  | .difference => .diff
  | .symmetricDifference => .symmDiff

mutual

/-- The members of a written set, which is closed under case before it is complemented.
Sets with a letter of their own are closed as they are. -/
def members? (o : PatternOptions) : WrittenSet → Option ScalarSet
  | .char c => (o.memberChar? c).map .single
  | .range low high =>
    match o.memberChar? low, o.memberChar? high with
    | some low, some high => some (.range low.toNat high.toNat)
    | _, _ => none
  | .letter set negated =>
    o.complemented? negated (if o.unicode then set.members else set.asciiMembers)
  | .ascii set negated => o.complemented? negated (o.close set)
  | .property p negated =>
    if o.unicode then
      match property? p with
      | some s => o.complemented? negated (o.close s)
      | none => none
    else none
  | .bracketed negated s =>
    match members? o s with
    | some s => o.complemented? negated (o.close s)
    | none => none
  | .members items => membersOfAll? o items
  | .combined op a b =>
    match members? o a, members? o b with
    | some a, some b => some (combine op (o.close a) (o.close b))
    | _, _ => none

def membersOfAll? (o : PatternOptions) : List WrittenSet → Option ScalarSet
  | [] => some .empty
  | s :: rest =>
    match members? o s, membersOfAll? o rest with
    | some a, some b => some (a.union b)
    | _, _ => none

end

def char? (o : PatternOptions) (c : WrittenChar) : Option Pattern :=
  if o.unicode || c.char.toNat < 0x80 then some (.one (o.close (.single c.char)))
  else if c.isByte then none
  else some (.one (.single c.char))

def anyChar? (o : PatternOptions) : Option Pattern :=
  if !o.unicode then none
  else if o.dotAll then some (.one .everything)
  else
    let lineEnds := if o.carriageReturns then ScalarSet.ofText "a d" else .single '\n'
    some (.one lineEnds.complement)

def anchor (o : PatternOptions) : WrittenAnchor → Anchor
  | .lineStart => if o.manyLines then .lineStart o.carriageReturns else .textStart
  | .lineEnd => if o.manyLines then .lineEnd o.carriageReturns else .textEnd
  | .textStart => .textStart
  | .textEnd => .textEnd
  | .wordBoundary => .word .boundary !o.unicode
  | .noWordBoundary => .word .none !o.unicode
  | .wordStart => .word .start !o.unicode
  | .wordEnd => .word .finish !o.unicode
  | .wordStartHalf => .word .startHalf !o.unicode
  | .wordEndHalf => .word .finishHalf !o.unicode

end PatternOptions

namespace Pattern

def isEmptyOnly : Pattern → Bool
  | .empty | .anchor _ => true
  | .one _ => false
  | .capture p => p.isEmptyOnly
  | .seq p q | .alt p q => p.isEmptyOnly && q.isEmptyOnly
  | .repeated p _ _ => p.isEmptyOnly

/-- A repetition. What matches nothing but the empty text is there at most once. -/
def repeating (p : Pattern) (least : Nat) (most : Option Nat) : Pattern :=
  let least := if p.isEmptyOnly then min least 1 else least
  let most := if p.isEmptyOnly then some (min (most.getD 1) 1) else most
  if most == some 0 then .empty
  else if least == 1 && most == some 1 then p
  else .repeated p least most

def sequence : List Pattern → Pattern
  | [] => .empty
  | .empty :: ps => sequence ps
  | p :: ps =>
    match sequence ps with
    | .empty => p
    | rest => .seq p rest

def unionOfAll? : List Pattern → Option ScalarSet
  | [] => some .empty
  | .one s :: ps => (unionOfAll? ps).map s.union
  | _ => none

def choice (ps : List Pattern) : Pattern :=
  match unionOfAll? ps with
  | some s => .one s
  | none => chain ps
where
  chain : List Pattern → Pattern
    | [] => .one .empty
    | [p] => p
    | p :: ps => .alt p (chain ps)

mutual

/-- What a written pattern means, and the options in force after it. -/
def ofWritten? (o : PatternOptions) : WrittenPattern → Option (Pattern × PatternOptions)
  | .empty => some (.empty, o)
  | .options changes => some (.empty, o.apply changes)
  | .char c => (o.char? c).map (·, o)
  | .anyChar => o.anyChar?.map (·, o)
  | .anchor a => some (.anchor (o.anchor a), o)
  | .set s => (o.members? s).map fun s => (.one s, o)
  | .group captures changes p =>
    (ofWritten? (o.apply changes) p).map fun q => (if captures then .capture q.1 else q.1, o)
  | .repeated p least most =>
    (ofWritten? o p).map fun q => (q.1.repeating least most, q.2)
  | .seq parts => (allOfWritten? o parts).map fun q => (sequence q.1, q.2)
  | .alt choices => (allOfWritten? o choices).map fun q => (choice q.1, q.2)

def allOfWritten? (o : PatternOptions) :
    List WrittenPattern → Option (List Pattern × PatternOptions)
  | [] => some ([], o)
  | p :: rest =>
    match ofWritten? o p with
    | none => none
    | some (p, o) => (allOfWritten? o rest).map fun q => (p :: q.1, q.2)

end

/-- Reads a pattern that is not nested too deeply and whose automata are not too large. -/
def read? (s : String) : Option Pattern :=
  match WrittenPattern.read? s with
  | none => none
  | some w =>
    if WrittenPattern.deepest < w.depth then none
    else
      match ofWritten? {} w with
      | some (p, _) => if PatternSize.fits p then some p else none
      | none => none

end Pattern
end Verdict
