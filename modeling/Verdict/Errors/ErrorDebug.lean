import Verdict.Errors.Error

/-! Diagnostic text of errors, which shows the parts they are made of. -/
namespace Verdict

def Violation.debug (v : Violation) : String :=
  let params := v.params.map fun p => "(" ++ quoted p.1 ++ ", " ++ p.2.debug ++ ")"
  "ValidationError \x7b code: " ++ quoted v.code ++ ", message: " ++ quoted v.template
    ++ ", params: [" ++ String.intercalate ", " params ++ "] \x7d"

namespace Error

mutual

def debug : Error → String
  | .violation v => "Validation(" ++ v.debug ++ ")"
  | .fields entries =>
    "Fields(ValidationErrors \x7b entries: \x7b" ++ String.intercalate ", " (debugEntries entries)
      ++ "\x7d \x7d)"
  | .internal .notStruct => "Internal(InternalError(NotStruct))"
  | .internal .notMap => "Internal(InternalError(NotMap))"
  | .internal .notIterable => "Internal(InternalError(NotIterable))"
  | .internal (.fieldNotFound index) =>
    "Internal(InternalError(FieldNotFound(" ++ toString index ++ ")))"
  | .internal (.unsupportedType name) =>
    "Internal(InternalError(UnsupportedType(" ++ quoted name ++ ")))"
  | .internal .zeroBase => "Internal(InternalError(ZeroBase))"
  | .internal (.raised e) => "Internal(InternalError(" ++ e.debug ++ "))"
  | .internal (.text s) => "Internal(InternalError(" ++ quoted s ++ "))"

def debugEntries : List (String × Option Error) → List String
  | [] => []
  | (key, none) :: rest => (quoted key ++ ": None") :: debugEntries rest
  | (key, some e) :: rest => (quoted key ++ ": Some(" ++ e.debug ++ ")") :: debugEntries rest

end

end Error
end Verdict
