import Verdict.Numbers.NearestRounding

/-! Decimal numerals with optional fraction and exponent, and the numbers they are read as. -/
namespace Verdict

/-- A signed decimal `digits * 10 ^ exponent`. -/
structure DecimalNumeral where
  isNegative : Bool
  digits : Nat
  exponent : Int
deriving DecidableEq

namespace DecimalNumeral

def digitValue (c : Char) : Nat := c.toNat - '0'.toNat

def ofDigits (ds : List Char) : Nat := ds.foldl (fun n c => 10 * n + digitValue c) 0

def splitSign : List Char → Bool × List Char
  | '-' :: r => (true, r)
  | '+' :: r => (false, r)
  | r => (false, r)

def exponentPart? : List Char → Option Int
  | [] => some 0
  | c :: r =>
    if c = 'e' ∨ c = 'E' then
      let (negative, ds) := splitSign r
      if ds.isEmpty || !ds.all Char.isDigit then none
      else some (if negative then -(ofDigits ds : Int) else ofDigits ds)
    else none

/-- Reads an unsigned numeral: digits with at most one point among them, at least
one digit, and an optional exponent. -/
def parseUnsigned (negative : Bool) (s : List Char) : Option DecimalNumeral :=
  let whole := s.takeWhile Char.isDigit
  let (fraction, rest) := match s.dropWhile Char.isDigit with
    | '.' :: r => (r.takeWhile Char.isDigit, r.dropWhile Char.isDigit)
    | r => ([], r)
  if whole.isEmpty && fraction.isEmpty then none
  else (exponentPart? rest).map fun e =>
    ⟨negative, ofDigits (whole ++ fraction), e - fraction.length⟩

def parse (s : List Char) : Option DecimalNumeral :=
  let (negative, r) := splitSign s
  parseUnsigned negative r

def toBinary64 (n : DecimalNumeral) : Binary64 := .ofDecimal n.isNegative n.digits n.exponent

end DecimalNumeral

/-- Reads a number: a decimal numeral, or in any case of letters `inf`, `infinity` or `nan`,
each with an optional sign. -/
def Binary64.parseWith (f : BinaryFormat) (s : String) : Option Binary64 :=
  let (negative, r) := DecimalNumeral.splitSign s.toList
  let word := String.ofList (r.map Char.toLower)
  if word = "nan" then some .nan
  else if word = "inf" ∨ word = "infinity" then some (.infinity negative)
  else (DecimalNumeral.parseUnsigned negative r).map fun n =>
    .ofNarrow f negative (f.nearestDecimal n.digits n.exponent)

def Binary64.parse (s : String) : Option Binary64 := parseWith .binary64 s

end Verdict
