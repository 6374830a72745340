import Verdict.Errors.MessageTemplate

/-! Outcomes of a failed validation: a violation, errors by key, or a fault that is not
the input's. -/
namespace Verdict

/-- Why a validation could not be carried out. `ε` is the type of errors a fault may carry. -/
inductive Fault (ε : Type) where
  | notStruct
  | notMap
  | notIterable
  | fieldNotFound (index : Nat)
  | unsupportedType (name : String)
  | zeroBase
  | raised (error : ε)
  | text (s : String)

/-- A failed validation. Errors by key are in ascending key order; an entry may be absent. -/
inductive Error where
  | violation (v : Violation)
  | fields (entries : List (String × Option Error))
  | internal (fault : Fault Error)

abbrev KeyedErrors := List (String × Option Error)

abbrev Outcome := Except Error Unit

namespace Error

/-- An internal error is no verdict on the input and ends the whole validation. -/
def isInternal : Error → Bool
  | .internal _ => true
  | _ => false

def code? : Error → Option String
  | .violation v => some v.code
  | _ => none

def closeList : List String → String
  | [] => ""
  | t :: ts => String.intercalate "; " (t :: ts) ++ "."

mutual

/-- The message. Errors by key are joined by semicolons and closed by a period, those
inside others in parentheses. -/
def message : Error → String
  | .violation v => v.message
  | .fields entries => closeList (messages entries)
  | .internal .notStruct => "only a struct can be validated"
  | .internal .notMap => "only a map can be validated"
  | .internal .notIterable => "must be an iterable (map, slice or array)"
  | .internal (.fieldNotFound index) =>
    "field #" ++ toString index ++ " cannot be found in the struct"
  | .internal (.unsupportedType name) => "type not supported: " ++ name
  | .internal .zeroBase => "multiple of zero is undefined"
  | .internal (.raised e) => e.message
  | .internal (.text s) => s

def messages : List (String × Option Error) → List String
  | [] => []
  | (_, none) :: rest => messages rest
  | (key, some (.fields nested)) :: rest =>
    (key ++ ": (" ++ closeList (messages nested) ++ ")") :: messages rest
  | (key, some e) :: rest => (key ++ ": " ++ e.message) :: messages rest

end

end Error
end Verdict
