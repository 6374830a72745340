import Verdict.Numbers.DecimalText
import Verdict.Json.JsonReader

/-! Numbers in text: integers, decimals, and the angles of geographic coordinates. -/
namespace Verdict
namespace WrittenNumber

def isInteger (s : List Char) : Bool :=
  match (DecimalNumeral.splitSign s).2 with
  | [] => false
  | c :: rest => (c :: rest).all Char.isDigit && (rest.isEmpty || c != '0')

def isDecimal (s : List Char) : Bool := (DecimalNumeral.parse s).isSome

/-- A decimal whose nearest number is between `-bound` and `bound`. -/
def isAngle (bound : Nat) (s : List Char) : Bool :=
  match DecimalNumeral.parse s with
  | none => false
  | some n =>
    let x := n.toBinary64
    (Binary64.ofInt (-(bound : Int))).rank ≤ x.rank && x.rank ≤ (Binary64.ofInt bound).rank

def isHexadecimal (s : List Char) : Bool :=
  !s.isEmpty && s.all fun c => (JsonReader.hexValue? c).isSome

end WrittenNumber
end Verdict
