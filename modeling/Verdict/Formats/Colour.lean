import Verdict.Errors.MessageTemplate
import Verdict.Formats.NumberedDocument
import Verdict.Text.Segments
import Verdict.Formats.WrittenNumber

/-! Colours as numbers. -/
namespace Verdict
namespace Colour

def isHex (s : List Char) : Bool :=
  let ds := match s with
    | '#' :: r => r
    | r => r
  WrittenNumber.isHexadecimal ds && (ds.length == 3 || ds.length == 6)

def isDigit (c : Char) : Bool := ScalarSet.decimalDigit.contains c

/-- A number up to 255 without leading zeros; a digit that any digit can stand for may
be of any script. -/
def isComponent : List Char → Bool
  | [a] => a.isDigit
  | [a, b] => '1' ≤ a && a ≤ '9' && isDigit b
  | [a, b, c] =>
    (a == '1' && isDigit b && isDigit c)
      || (a == '2' && '0' ≤ b && b ≤ '4' && isDigit c)
      || (a == '2' && b == '5' && '0' ≤ c && c ≤ '5')
  | _ => false

def isRgb (s : List Char) : Bool :=
  match s with
  | 'r' :: 'g' :: 'b' :: '(' :: r =>
    r.getLast? == some ')'
      && (let parts := segments ',' r.dropLast
          parts.length == 3 && parts.all fun p => isComponent (MessageTemplate.trim p))
  | _ => false

end Colour
end Verdict
