import Verdict.Unicode.BlanksAndDigits

/-! Numbers that documents go by: payment cards, telephones, social security. -/
namespace Verdict

namespace CardNumber

def isSeparator (c : Char) : Bool := c == ' ' || c == '-'

def doubled (d : Nat) : Nat := if 9 < 2 * d then 2 * d - 9 else 2 * d

/-- The check sum of digits from the right: every second one counts doubled. -/
def checkSum : List Nat → Nat
  | [] => 0
  | [d] => d
  | d :: e :: rest => d + doubled e + checkSum rest

def digit? (c : Char) : Option Nat := if c.isDigit then some (c.toNat - '0'.toNat) else none

def digits? (s : List Char) : Option (List Nat) :=
  (s.filter fun c => !isSeparator c).mapM digit?

/-- Twelve to nineteen digits whose check sum ends in zero. -/
def isValid (s : List Char) : Bool :=
  match digits? s with
  | some ds => 12 ≤ ds.length && ds.length ≤ 19 && checkSum ds.reverse % 10 == 0
  | none => false

end CardNumber

namespace PhoneNumber

def isDigit (c : Char) : Bool := ScalarSet.decimalDigit.contains c

/-- A plus sign, a digit from 1 to 9, and one to fourteen digits of any script. -/
def isE164 : List Char → Bool
  | '+' :: c :: rest =>
    '1' ≤ c && c ≤ '9' && rest.all isDigit && 1 ≤ rest.length && rest.length ≤ 14
  | _ => false

end PhoneNumber

namespace SocialSecurityNumber

def dropDigits? : Nat → List Char → Option (List Char)
  | 0, s => some s
  | n + 1, c :: rest => if ScalarSet.decimalDigit.contains c then dropDigits? n rest else none
  | _ + 1, [] => none

def dropSeparator : List Char → List Char
  | '-' :: rest => rest
  | ' ' :: rest => rest
  | s => s

/-- Three, two and four digits, with at most one hyphen or space in each gap. -/
def isValid (s : List Char) : Bool :=
  match dropDigits? 3 s with
  | none => false
  | some s =>
    match dropDigits? 2 (dropSeparator s) with
    | none => false
    | some s => dropDigits? 4 (dropSeparator s) == some []

end SocialSecurityNumber
end Verdict
