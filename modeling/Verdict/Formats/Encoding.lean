import Verdict.Text.Segments

/-! Binary data written as text. -/
namespace Verdict
namespace Base64

def digitValue? (c : Char) : Option Nat :=
  if 'A' ≤ c && c ≤ 'Z' then some (c.toNat - 'A'.toNat)
  else if 'a' ≤ c && c ≤ 'z' then some (c.toNat - 'a'.toNat + 26)
  else if c.isDigit then some (c.toNat - '0'.toNat + 52)
  else if c == '+' then some 62
  else if c == '/' then some 63
  else none

def isDigit (c : Char) : Bool := (digitValue? c).isSome

/-- A last digit whose unused low bits are zero. -/
def endsClean (unit : Nat) (c : Char) : Bool := (digitValue? c).any fun n => n % unit == 0

/-- Groups of four digits; the last may be padded from two or three, and then leaves no
bits over. -/
def isValid : List Char → Bool
  | [] => true
  | [a, b, '=', '='] => isDigit a && endsClean 16 b
  | [a, b, c, '='] => isDigit a && isDigit b && endsClean 4 c
  | a :: b :: c :: d :: rest => isDigit a && isDigit b && isDigit c && isDigit d && isValid rest
  | _ => false

end Base64

namespace DataUri

def isNonempty (isGood : Char → Bool) (s : List Char) : Bool := !s.isEmpty && s.all isGood

def isSubtypeChar (c : Char) : Bool := c.isAlphanum || c == '.' || c == '+' || c == '-'

def isParameterChar (c : Char) : Bool := c.isAlphanum || c == '-'

def isMediaType (s : List Char) : Bool :=
  match cutAt? '/' s with
  | some (main, sub) => isNonempty Char.isAlpha main && isNonempty isSubtypeChar sub
  | none => false

def isParameter (s : List Char) : Bool :=
  match cutAt? '=' s with
  | some (name, value) => isNonempty isParameterChar name && isNonempty isParameterChar value
  | none => false

/-- What stands between the scheme and the comma: a media type, parameters, and the
name of the encoding. -/
def isHeader (s : List Char) : Bool :=
  match segments ';' s with
  | [] => false
  | media :: rest =>
    isMediaType media && rest.getLast? == some "base64".toList && rest.dropLast.all isParameter

def isValid (s : List Char) : Bool :=
  match s with
  | 'd' :: 'a' :: 't' :: 'a' :: ':' :: rest =>
    match cutAt? ',' rest with
    | some (header, payload) => isHeader header && !payload.isEmpty && Base64.isValid payload
    | none => false
  | _ => false

end DataUri
end Verdict
