import Verdict.Values.Value

/-! Equality of values across the two representations of integers. -/
namespace Verdict
namespace Value

mutual

/-- Equality. Integers are compared as numbers; no NaN equals anything; values of
outside types are equal if they are the same object; validations of structs do not count. -/
def isEqual : Value → Value → Bool
  | .nil, .nil => true
  | .bool a, .bool b => a == b
  | .int a, .int b => a == b
  | .uint a, .uint b => a == b
  | .int a, .uint b => a.toInt == b.toNat
  | .uint a, .int b => a.toNat == b.toInt
  | .float a, .float b => a.numericEq b
  | .text a, .text b => a == b
  | .bytes a, .bytes b => a == b
  | .list a, .list b => listsEqual a b
  | .map k a, .map l b => k == l && entriesEqual a b
  | .struct n a _, .struct m b _ => n == m && fieldsEqual a b
  | .foreign a, .foreign b => a == b
  | _, _ => false
termination_by structural v => v

def listsEqual : List Value → List Value → Bool
  | [], [] => true
  | a :: r, b :: s => a.isEqual b && listsEqual r s
  | _, _ => false
termination_by structural vs => vs

def entriesEqual : List (MapKey × Value) → List (MapKey × Value) → Bool
  | [], [] => true
  | (k, a) :: r, (l, b) :: s => k == l && a.isEqual b && entriesEqual r s
  | _, _ => false
termination_by structural es => es

def fieldsEqual : List (Field Value) → List (Field Value) → Bool
  | [], [] => true
  | f :: r, g :: s =>
    f.name == g.name && f.tag == g.tag && f.embedded == g.embedded && f.value.isEqual g.value
      && fieldsEqual r s
  | _, _ => false
termination_by structural fs => fs

end

end Value
end Verdict
