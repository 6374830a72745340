import Verdict.Json.JsonText
import Verdict.Unicode.BlanksAndDigits

/-! A single failed rule: a code, a message template and the parameters it names. -/
namespace Verdict

/-- What one rule found wrong. Parameters are listed in the order of their first write. -/
structure Violation where
  code : String
  template : String
  params : List (String × Json)

namespace Violation

def plain (code template : String) : Violation := ⟨code, template, []⟩

def custom (template : String) : Violation := plain "custom" template

def param? (v : Violation) (name : String) : Option Json := v.params.lookup name

/-- Overwrites the value of a name in place; a new name goes to the end. -/
def setParam (name : String) (value : Json) : List (String × Json) → List (String × Json)
  | [] => [(name, value)]
  | (k, j) :: rest => if k == name then (k, value) :: rest else (k, j) :: setParam name value rest

def withParam (v : Violation) (name : String) (value : Json) : Violation :=
  { v with params := setParam name value v.params }

def withParams (v : Violation) (params : List (String × Json)) : Violation :=
  params.foldl (fun v p => v.withParam p.1 p.2) { v with params := [] }

def withCode (v : Violation) (code : String) : Violation := { v with code }

def withTemplate (v : Violation) (template : String) : Violation := { v with template }

/-- Equality of code, template and parameters, where the order of parameters does not count. -/
def isEqual (v w : Violation) : Bool :=
  v.code == w.code && v.template == w.template && v.params.length == w.params.length
    && v.params.all fun p =>
      match w.param? p.1 with
      | some j => j.isEqual p.2
      | none => false

end Violation
end Verdict
