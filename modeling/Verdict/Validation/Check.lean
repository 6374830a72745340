import Verdict.Values.Value

/-! What is asked of a value in a context, and the validation a value brings along. -/
namespace Verdict

abbrev Check := Context → Value → Run

namespace Value

def validator? : Value → Option Validator
  | .struct _ _ validator => validator
  | _ => none

def ownValidation (c : Context) (v : Value) : Run :=
  match v.validator? with
  | some validator => (validator c).witnessed
  | none => .ok

/-- Self-validation. The elements of a collection are asked one by one; collections
among them are not searched. -/
def validateSelf (c : Context) (v : Value) : Run :=
  if v.kind = .collection then
    collect false (underKey Prod.fst) (fun e => e.2.ownValidation c) [] v.entries
  else v.ownValidation c

end Value

namespace Check

def afterSelf (skipSelf : Bool) (check : Check) : Check := fun c v =>
  if skipSelf then check c v else (v.validateSelf c).andThen fun () => check c v

/-- The check of every element of a collection; errors go under the element's index or key. -/
def each (failFast : Bool) (check : Check) : Check := fun c v =>
  match v.kind with
  | .nil => .ok
  | .collection => collect failFast (underKey Prod.fst) (fun e => check c e.2) [] v.entries
  | _ => .raise .notIterable

end Check
end Verdict
