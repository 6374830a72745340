import Verdict.Numbers.ShortestDigits

/-! Decimal text of binary64 numbers: the shortest digits, set out in one of several layouts. -/
namespace Verdict

/-- How shortest digits are set out. The exponent in question is that of the
first digit; outside the positional range the number is written with an exponent. -/
structure FloatLayout where
  isPositional : Int → Bool
  /-- Written after a whole number in positional notation. -/
  wholeMark : String
  /-- Written between the digits and an exponent that is not negative. -/
  exponentMark : String
  tie : TieRule

namespace FloatLayout

def json : FloatLayout := ⟨fun e => -5 ≤ e && e < 16, ".0", "e+", .even⟩

def plain : FloatLayout := ⟨fun _ => true, "", "e", .upper⟩

def debug : FloatLayout := ⟨fun e => -4 ≤ e && e < 16, ".0", "e", .upper⟩

def decimal (l : FloatLayout) (d : ShortDecimal) : String :=
  let digits := Nat.toDigits 10 d.digits
  let width := digits.length
  let lead : Int := d.exponent + width - 1
  if l.isPositional lead then
    match d.exponent with
    | .ofNat k => String.ofList (digits ++ List.replicate k '0') ++ l.wholeMark
    | .negSucc k =>
      let places := k + 1
      let padded := List.replicate (places + 1 - width) '0' ++ digits
      let whole := padded.length - places
      String.ofList (padded.take whole ++ '.' :: padded.drop whole)
  else
    let fraction := digits.drop 1
    let mantissa := digits.take 1 ++ (if fraction.isEmpty then [] else '.' :: fraction)
    String.ofList mantissa ++ (if lead < 0 then "e" else l.exponentMark) ++ toString lead

/-- Text of any number. Zero keeps its sign. -/
def render (l : FloatLayout) (x : Binary64) : String :=
  let sign := if x.isNegative then "-" else ""
  if x.isNaN then "NaN"
  else if !x.isFinite then sign ++ "inf"
  else if x.isZero then sign ++ "0" ++ l.wholeMark
  else sign ++ l.decimal (.ofMagnitude l.tie x.magnitude)

end FloatLayout
end Verdict
