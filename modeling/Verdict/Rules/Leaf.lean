import Verdict.Formats.Format
import Verdict.Rules.LeafTest
import Verdict.Values.ValueText

/-! Leaf rules: a test of a value and the violation that reports its failure. -/
namespace Verdict

structure Leaf where
  test : LeafTest
  template : Violation

namespace Leaf

def judge (l : Leaf) (v : Value) : Judgement := l.test.judge v

def outcome (l : Leaf) (v : Value) : Outcome := (l.judge v).outcome l.template

def required : Leaf :=
  ⟨.presence true false, .plain "validation_required" "cannot be blank"⟩

def nilOrNotEmpty : Leaf :=
  ⟨.presence true true, .plain "validation_nil_or_not_empty_required" "cannot be blank"⟩

def notNil : Leaf := ⟨.notNil, .plain "validation_not_nil_required" "is required"⟩

def nil : Leaf := ⟨.absence true false, .plain "validation_nil" "must be blank"⟩

def empty : Leaf := ⟨.absence true true, .plain "validation_empty" "must be blank"⟩

def lengthTemplate (min max : UInt64) : Violation :=
  if min == 0 && max == 0 then
    .plain "validation_length_empty_required" "the value must be empty"
  else if min == 0 then
    .plain "validation_length_too_long" "the length must be no more than \x7b\x7b.max\x7d\x7d"
  else if max == 0 then
    .plain "validation_length_too_short" "the length must be no less than \x7b\x7b.min\x7d\x7d"
  else if min == max then
    .plain "validation_length_invalid" "the length must be exactly \x7b\x7b.min\x7d\x7d"
  else
    .plain "validation_length_out_of_range"
      "the length must be between \x7b\x7b.min\x7d\x7d and \x7b\x7b.max\x7d\x7d"

def length (min max : UInt64) (unit : LengthUnit) : Leaf :=
  ⟨.length min max unit,
    ((lengthTemplate min max).withParam "min" (.number (.natural min))).withParam
    "max" (.number (.natural max))⟩

def thresholdTemplate (limit : Value) (bound : Bound) (exclusive : Bool) : Violation :=
  let plain := match bound, exclusive with
    | .least, false => Violation.plain "validation_min_greater_equal_than_required"
        "must be no less than \x7b\x7b.threshold\x7d\x7d"
    | .least, true => .plain "validation_min_greater_than_required"
        "must be greater than \x7b\x7b.threshold\x7d\x7d"
    | .greatest, false => .plain "validation_max_less_equal_than_required"
        "must be no greater than \x7b\x7b.threshold\x7d\x7d"
    | .greatest, true => .plain "validation_max_less_than_required"
        "must be less than \x7b\x7b.threshold\x7d\x7d"
  plain.withParam "threshold" limit.toJson

def threshold (limit : Value) (bound : Bound) (exclusive : Bool) : Leaf :=
  ⟨.threshold limit bound exclusive, thresholdTemplate limit bound exclusive⟩

def multipleOf (base : Value) : Leaf :=
  ⟨.multipleOf base, (Violation.plain "validation_multiple_of_invalid"
    "must be multiple of \x7b\x7b.base\x7d\x7d").withParam "base" base.toJson⟩

def isIn (elements : List Value) : Leaf :=
  ⟨.membership elements false, .plain "validation_in_invalid" "must be a valid value"⟩

def notIn (elements : List Value) : Leaf :=
  ⟨.membership elements true, .plain "validation_not_in_invalid" "must not be in list"⟩

/-- The rule of a written pattern, if that can be read. -/
def matching? (source : String) : Option Leaf :=
  (Pattern.read? source).map fun pattern =>
    ⟨.matching source pattern, .plain "validation_match_invalid" "must be in a valid format"⟩

def date (layout : String) : Leaf :=
  ⟨.date layout none none (.plain "validation_date_out_of_range" "the date is out of range"),
    .plain "validation_date_invalid" "must be a valid date"⟩

def text (accepts : String → Bool) (template : Violation) : Leaf := ⟨.text accepts, template⟩

def format (f : Format) : Leaf := text f.accepts f.violation

def withMessage (message : String) (l : Leaf) : Leaf :=
  { l with template := l.template.withTemplate message }

def withTemplate (template : Violation) (l : Leaf) : Leaf := { l with template }

/-- A test of presence or absence that passes every value unless the condition holds. -/
def onlyIf (condition : Bool) (l : Leaf) : Leaf :=
  match l.test with
  | .presence _ nilPasses => { l with test := .presence condition nilPasses }
  | .absence _ emptyPasses => { l with test := .absence condition emptyPasses }
  | _ => l

/-- Keeps out the threshold itself. The error becomes the one that says so. -/
def exclusive (l : Leaf) : Leaf :=
  match l.test with
  | .threshold limit bound _ => threshold limit bound true
  | _ => l

def notBefore (m : Moment) (l : Leaf) : Leaf :=
  match l.test with
  | .date layout _ latest rangeError => { l with test := .date layout (some m) latest rangeError }
  | _ => l

def notAfter (m : Moment) (l : Leaf) : Leaf :=
  match l.test with
  | .date layout earliest _ rangeError =>
    { l with test := .date layout earliest (some m) rangeError }
  | _ => l

def mapRangeError (change : Violation → Violation) (l : Leaf) : Leaf :=
  match l.test with
  | .date layout earliest latest rangeError =>
    { l with test := .date layout earliest latest (change rangeError) }
  | _ => l

end Leaf
end Verdict
