import Verdict.Errors.KeyedErrors

/-! Errors as JSON trees of messages, and equality of errors. -/
namespace Verdict
namespace Error

mutual

def toJson : Error → Json
  | .violation v => .string v.message
  | .fields entries => .object (jsonMembers entries)
  | .internal fault => .string (Error.internal fault).message

def jsonMembers : List (String × Option Error) → List (String × Json)
  | [] => []
  | (_, none) :: rest => jsonMembers rest
  | (key, some e) :: rest => (key, e.toJson) :: jsonMembers rest

end

mutual

/-- Equality of errors. Internal errors are equal when their messages are. -/
def isEqual : Error → Error → Bool
  | .violation v, .violation w => v.isEqual w
  | .fields es, .fields fs => entriesEqual es fs
  | .internal f, .internal g => (Error.internal f).message == (Error.internal g).message
  | _, _ => false

/-- Absent entries count, and are equal to each other only. -/
def entriesEqual : List (String × Option Error) → List (String × Option Error) → Bool
  | [], [] => true
  | (k, none) :: es, (l, none) :: fs => k == l && entriesEqual es fs
  | (k, some e) :: es, (l, some f) :: fs => k == l && e.isEqual f && entriesEqual es fs
  | _, _ => false

end

end Error
end Verdict
