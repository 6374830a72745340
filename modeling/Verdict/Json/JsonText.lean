import Verdict.Json.JsonTree
import Verdict.Numbers.FloatText
import Verdict.Text.QuotedText

/-! The compact text of a JSON document, and its form in diagnostic output. -/
namespace Verdict
namespace JsonText

def controlEscape (n : Nat) : List Char :=
  ['\\', 'u', '0', '0', Nat.digitChar (n / 16), Nat.digitChar (n % 16)]

/-- One character of a string. Only the quote, the backslash and controls are escaped. -/
def escape (c : Char) : List Char :=
  match c with
  | '"' => ['\\', '"']
  | '\\' => ['\\', '\\']
  | '\x08' => ['\\', 'b']
  | '\x0c' => ['\\', 'f']
  | '\n' => ['\\', 'n']
  | '\r' => ['\\', 'r']
  | '\t' => ['\\', 't']
  | c => if c.toNat < 0x20 then controlEscape c.toNat else [c]

def string (s : String) : String :=
  String.ofList ('"' :: s.toList.flatMap escape ++ ['"'])

end JsonText

def JsonNumber.render : JsonNumber → String
  | .natural n => toString n.toNat
  | .negative n => toString n.toInt
  | .float x => FloatLayout.json.render x

namespace Json

mutual

def render : Json → String
  | .null => "null"
  | .bool b => if b then "true" else "false"
  | .number n => n.render
  | .string s => JsonText.string s
  | .array items => "[" ++ String.intercalate "," (renderEach items) ++ "]"
  | .object members => "\x7b" ++ String.intercalate "," (renderMembers members) ++ "\x7d"

def renderEach : List Json → List String
  | [] => []
  | j :: r => j.render :: renderEach r

def renderMembers : List (String × Json) → List String
  | [] => []
  | (k, j) :: r => (JsonText.string k ++ ":" ++ j.render) :: renderMembers r

end

mutual

def debug : Json → String
  | .null => "Null"
  | .bool b => "Bool(" ++ (if b then "true" else "false") ++ ")"
  | .number n => "Number(" ++ n.render ++ ")"
  | .string s => "String(" ++ quoted s ++ ")"
  | .array items => "Array [" ++ String.intercalate ", " (debugEach items) ++ "]"
  | .object members => "Object \x7b" ++ String.intercalate ", " (debugMembers members) ++ "\x7d"

def debugEach : List Json → List String
  | [] => []
  | j :: r => j.debug :: debugEach r

def debugMembers : List (String × Json) → List String
  | [] => []
  | (k, j) :: r => (quoted k ++ ": " ++ j.debug) :: debugMembers r

end

end Json
end Verdict
