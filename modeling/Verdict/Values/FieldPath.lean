import Verdict.Text.Segments
import Verdict.Values.Value

/-! Finding the fields of a struct, its promoted fields among them, by name and by path. -/
namespace Verdict
namespace Value

def joinLevels {α : Type} : List (List α) → List (List α) → List (List α)
  | [], ys => ys
  | xs, [] => xs
  | x :: xs, y :: ys => (x ++ y) :: joinLevels xs ys

mutual

/-- The fields of a struct, then those of the structs embedded in it, those embedded in
these, and so on. -/
def levels : Value → List (List (Field Value))
  | .struct _ fields _ => fields :: embeddedLevels fields
  | _ => []

def embeddedLevels : List (Field Value) → List (List (Field Value))
  | [] => []
  | f :: rest =>
    if f.embedded then joinLevels f.value.levels (embeddedLevels rest) else embeddedLevels rest

end

def reachableFields (v : Value) : List (Field Value) := v.levels.flatten

def field? (v : Value) (name : String) : Option (Field Value) :=
  v.reachableFields.find? fun f => f.name == name

/-- Steps through structs by name. The error keys of the fields on the way are joined by points. -/
def fieldAlong? : Value → List String → Option (Field Value × String)
  | _, [] => none
  | v, [name] => (v.field? name).map fun f => (f, f.errorKey)
  | v, name :: rest =>
    match v.field? name with
    | none => none
    | some f => (fieldAlong? f.value rest).map fun r => (r.1, f.errorKey ++ "." ++ r.2)

/-- The field at a path of names between points, and the key of its errors. -/
def resolve? (v : Value) (path : String) : Option (Field Value × String) :=
  v.fieldAlong? ((segments '.' path.toList).map String.ofList)

end Value
end Verdict
