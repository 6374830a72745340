import Verdict.Text.QuotedText

/-! Keys of maps: their kinds, their order, and their conversion between kinds. -/
namespace Verdict

/-- The declared type of a map's keys; `any` admits all of them side by side. -/
inductive KeyKind where
  | any | bool | int | uint | text
deriving DecidableEq

inductive MapKey where
  | bool (b : Bool)
  | int (n : Int64)
  | uint (n : UInt64)
  | text (s : String)
deriving DecidableEq

namespace MapKey

def kind : MapKey → KeyKind
  | .bool _ => .bool
  | .int _ => .int
  | .uint _ => .uint
  | .text _ => .text

def render : MapKey → String
  | .bool b => if b then "true" else "false"
  | .int n => toString n.toInt
  | .uint n => toString n.toNat
  | .text s => s

/-- Booleans come first, then signed integers, unsigned integers and text; text is
ordered by its code points. -/
protected def compare : MapKey → MapKey → Ordering
  | .bool a, .bool b => Ord.compare a b
  | .bool _, _ => .lt
  | _, .bool _ => .gt
  | .int a, .int b => Ord.compare a.toInt b.toInt
  | .int _, _ => .lt
  | _, .int _ => .gt
  | .uint a, .uint b => Ord.compare a.toNat b.toNat
  | .uint _, _ => .lt
  | _, .uint _ => .gt
  | .text a, .text b => Ord.compare a b

instance : Ord MapKey := ⟨MapKey.compare⟩

def unsigned? (n : Int64) : Option UInt64 :=
  if 0 ≤ n.toInt then some (UInt64.ofNat n.toInt.toNat) else none

def signed? (n : UInt64) : Option Int64 :=
  if n.toNat < 0x8000000000000000 then some (Int64.ofInt n.toNat) else none

/-- The key in the form a map of the given kind stores it, if there is one. Maps of
any kind store as signed every integer that fits. -/
def coerce? : KeyKind → MapKey → Option MapKey
  | .any, .uint n => some ((signed? n).elim (.uint n) .int)
  | .any, k => some k
  | .bool, .bool b => some (.bool b)
  | .int, .int n => some (.int n)
  | .int, .uint n => (signed? n).map .int
  | .uint, .uint n => some (.uint n)
  | .uint, .int n => (unsigned? n).map .uint
  | .text, .text s => some (.text s)
  | _, _ => none

def stored (kind : KeyKind) (k : MapKey) : MapKey := (coerce? kind k).getD k

def debug : MapKey → String
  | .bool b => "Bool(" ++ (if b then "true" else "false") ++ ")"
  | .int n => "Int(" ++ toString n.toInt ++ ")"
  | .uint n => "Uint(" ++ toString n.toNat ++ ")"
  | .text s => "Text(" ++ quoted s ++ ")"

end MapKey

def KeyKind.name : KeyKind → String
  | .any => "Any"
  | .bool => "Bool"
  | .int => "Int"
  | .uint => "Uint"
  | .text => "Text"

end Verdict
