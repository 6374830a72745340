import Verdict.Validation.Check
import Verdict.Values.FieldPath

/-! The validation of fields of a struct. -/
namespace Verdict

structure FieldBinding (ρ : Type) where
  path : String
  rules : ρ

/-- A binding at its place in the list of bindings, and the field that it leads to. -/
structure FieldItem where
  index : Nat
  binding : FieldBinding Check
  target : Option (Field Value × String)

namespace FieldItem

/-- Checks the field. That there is none is an internal error. -/
def check (structName : String) (c : Context) (i : FieldItem) : Run :=
  match i.target with
  | none => .raise (.fieldNotFound i.index)
  | some (f, _) =>
    (i.binding.rules c f.value).reportAbort (.structAborted structName i.binding.path)

/-- Writes the error of a field under its key. Errors by key of an embedded struct are
written beside the others. -/
def write (i : FieldItem) (e : Error) (es : KeyedErrors) : KeyedErrors :=
  match i.target, e with
  | some (⟨_, _, true, _⟩, _), .fields nested => es.merge nested
  | some (_, key), e => es.insert key e
  | none, _ => es

end FieldItem

def Check.structFields (bindings : List (FieldBinding Check)) : Check := fun c v =>
  match v with
  | .nil => .ok
  | .struct name _ _ =>
    (collect false FieldItem.write (FieldItem.check name c) []
      (bindings.zipIdx.map fun p => ⟨p.2, p.1, v.resolve? p.1.path⟩)).after
      [.structOpened name bindings.length]
  | _ => .raise .notStruct

end Verdict
