import Verdict.Calendar.WrittenDate
import Verdict.Patterns.PatternMeaning
import Verdict.Rules.Judgement
import Verdict.Values.ValueEquality

/-! The tests of single values. Most of them pass empty values, which only the tests of
presence are meant to refuse. -/
namespace Verdict

/-- How text is measured. -/
inductive LengthUnit where
  | bytes | scalars
deriving DecidableEq

/-- Which values a threshold keeps out: those below it or those above it. -/
inductive Bound where
  | least | greatest
deriving DecidableEq

inductive LeafTest where
  | presence (applies nilPasses : Bool)
  | notNil
  | absence (applies emptyPasses : Bool)
  | length (min max : UInt64) (unit : LengthUnit)
  | threshold (limit : Value) (bound : Bound) (exclusive : Bool)
  | multipleOf (base : Value)
  | membership (elements : List Value) (negated : Bool)
  | matching (source : String) (pattern : Pattern)
  | date (layout : String) (earliest latest : Option Moment) (rangeError : Violation)
  | text (accepts : String → Bool)

def LengthUnit.measure? : LengthUnit → Value → Option Nat
  | .scalars, .text s => some s.length
  | _, v => v.length?

def Bound.admits (bound : Bound) (exclusive : Bool) (o : Ordering) : Bool :=
  match bound, exclusive with
  | .least, false => o != .lt
  | .least, true => o == .gt
  | .greatest, false => o != .gt
  | .greatest, true => o == .lt

namespace LeafTest

/-- A bound of zero is none, but two of them leave the empty value only. -/
def admitsLength (min max : UInt64) (n : Nat) : Bool :=
  (min == 0 || min.toNat ≤ n) && (max == 0 || n ≤ max.toNat) && !(min == 0 && max == 0 && 0 < n)

def unmeasurable (v : Value) : Violation :=
  (Violation.plain "validation_length_unsupported"
    "cannot get the length of \x7b\x7b.type\x7d\x7d").withParam
    "type" (.string v.typeName)

def judgeLength (min max : UInt64) (unit : LengthUnit) (v : Value) : Judgement :=
  match unit.measure? v with
  | some n => .ofBool (admitsLength min max n)
  | none => .violation (unmeasurable v)

/-- The order of a value and a threshold of a representation that the value is converted to;
a value that has no order to the threshold fails. -/
def judgeThreshold (limit : Value) (admits : Ordering → Bool) (v : Value) : Judgement :=
  match limit with
  | .int t => .ofConversion v.toInt64 fun n => .ofBool (admits (compare n.toInt t.toInt))
  | .uint t => .ofConversion v.toUInt64 fun n => .ofBool (admits (compare n.toNat t.toNat))
  | .float t => .ofConversion v.toBinary64 fun x => .ofBool ((x.compare? t).any admits)
  | limit =>
    match limit.moment? with
    | some t => .ofConversion v.toMoment fun m => .ofBool (admits (m.compare t))
    | none => .unsupported limit.typeName

/-- A base of zero is an internal error, like a base that is no integer. -/
def judgeMultiple (base v : Value) : Judgement :=
  match base with
  | .int b =>
    if b == 0 then .other (.internal .zeroBase)
    else .ofConversion v.toInt64 fun n => .ofBool (n % b == 0)
  | .uint b =>
    if b == 0 then .other (.internal .zeroBase)
    else .ofConversion v.toUInt64 fun n => .ofBool (n % b == 0)
  | base => .unsupported base.typeName

def judgeMembership (elements : List Value) (negated : Bool) (v : Value) : Judgement :=
  .ofBool ((elements.any fun e => e.isEqual v) != negated)

/-- Only text can match, and empty text always does. -/
def judgeMatching (pattern : Pattern) (v : Value) : Judgement :=
  match v.toText with
  | .ok s => .ofBool (v.isEmpty || pattern.matchesIn s)
  | .error _ => .failure

def judgeDate (layout : String) (earliest latest : Option Moment) (rangeError : Violation)
    (v : Value) : Judgement :=
  .ofConversion v.toText fun s =>
    match Moment.read? layout s with
    | none => .failure
    | some m =>
      if earliest.all (fun e => m.compare e != .lt) && latest.all (fun l => m.compare l != .gt) then
        .pass
      else .violation rangeError

def unlessEmpty (v : Value) (j : Judgement) : Judgement := if v.isEmpty then .pass else j

def unlessNil (v : Value) (j : Judgement) : Judgement := if v.isNil then .pass else j

section Unless
variable {v : Value} {j : Judgement}

theorem unlessEmpty_of_empty (h : v.isEmpty = true) : unlessEmpty v j = .pass := if_pos h

theorem unlessEmpty_of_not_empty (h : v.isEmpty = false) : unlessEmpty v j = j := by
  rw [unlessEmpty, h]
  rfl

theorem unlessNil_of_not_nil (h : v.isNil = false) : unlessNil v j = j := by
  rw [unlessNil, h]
  rfl

end Unless

def judge : LeafTest → Value → Judgement
  | .presence applies nilPasses, v =>
    .ofBool (!applies || if v.isNil then nilPasses else !v.isEmpty)
  | .notNil, v => .ofBool !v.isNil
  | .absence applies emptyPasses, v =>
    .ofBool (!applies || v.isNil || (emptyPasses && v.isEmpty))
  | .length min max unit, v => unlessEmpty v (judgeLength min max unit v)
  | .threshold limit bound exclusive, v =>
    unlessEmpty v (judgeThreshold limit (bound.admits exclusive) v)
  | .multipleOf base, v => unlessNil v (judgeMultiple base v)
  | .membership elements negated, v => unlessEmpty v (judgeMembership elements negated v)
  | .matching _ pattern, v => unlessNil v (judgeMatching pattern v)
  | .date layout earliest latest rangeError, v =>
    unlessEmpty v (judgeDate layout earliest latest rangeError v)
  | .text accepts, v => unlessEmpty v (.ofConversion v.toText fun s => .ofBool (accepts s))

end LeafTest
end Verdict
