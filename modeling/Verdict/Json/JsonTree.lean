import Verdict.Numbers.Binary64
import Verdict.Store.SortedEntries

/-! JSON documents as trees: numbers in three representations, objects in ascending key order. -/
namespace Verdict

/-- A JSON number: an integer of 64 bits where the numeral is one, a binary64 number otherwise. -/
inductive JsonNumber where
  | natural (n : UInt64)
  | negative (n : Int64)
  | float (x : Binary64)

namespace JsonNumber

def ofInt64 (n : Int64) : JsonNumber :=
  if 0 ≤ n.toInt then .natural (UInt64.ofNat n.toInt.toNat) else .negative n

def isEqual : JsonNumber → JsonNumber → Bool
  | .natural a, .natural b => a == b
  | .negative a, .negative b => a == b
  | .float a, .float b => a.numericEq b
  | _, _ => false

end JsonNumber

inductive Json where
  | null
  | bool (b : Bool)
  | number (n : JsonNumber)
  | string (s : String)
  | array (items : List Json)
  | object (members : List (String × Json))

namespace Json

mutual

/-- Equality of documents; members are compared in key order. -/
def isEqual : Json → Json → Bool
  | .null, .null => true
  | .bool a, .bool b => a == b
  | .number a, .number b => a.isEqual b
  | .string a, .string b => a == b
  | .array a, .array b => areEqual a b
  | .object a, .object b => membersEqual a b
  | _, _ => false

def areEqual : List Json → List Json → Bool
  | [], [] => true
  | a :: r, b :: s => a.isEqual b && areEqual r s
  | _, _ => false

def membersEqual : List (String × Json) → List (String × Json) → Bool
  | [], [] => true
  | (k, a) :: r, (l, b) :: s => k == l && a.isEqual b && membersEqual r s
  | _, _ => false

end

/-- An object from members in any order; the last member of a key counts. -/
def ofMembers (members : List (String × Json)) : Json := .object (SortedEntries.ofList members)

end Json
end Verdict
