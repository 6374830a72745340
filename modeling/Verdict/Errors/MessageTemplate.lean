import Verdict.Errors.Violation

/-! Message templates: `{{.name}}` stands for a parameter, all other text for itself. -/
namespace Verdict
namespace MessageTemplate

/-- A piece of a template. An action is what stands between a pair of opening braces
and the next pair of closing ones; without closing braces it is left open. -/
inductive Piece where
  | literal (c : Char)
  | action (inner : List Char)
  | unclosed (inner : List Char)
deriving DecidableEq

/-- The pieces of a template. Inside an action the text read so far is at hand, last first. -/
def scan : Option (List Char) → List Char → List Piece
  | none, '\x7b' :: '\x7b' :: rest => scan (some []) rest
  | none, c :: rest => .literal c :: scan none rest
  | none, [] => []
  | some inner, '\x7d' :: '\x7d' :: rest => .action inner.reverse :: scan none rest
  | some inner, c :: rest => scan (some (c :: inner)) rest
  | some inner, [] => [.unclosed inner.reverse]

def isBlank (c : Char) : Bool := ScalarSet.whiteSpace.contains c

def trim (s : List Char) : List Char :=
  ((s.dropWhile isBlank).reverse.dropWhile isBlank).reverse

def name? (inner : List Char) : Option String :=
  match trim inner with
  | '.' :: name => some (String.ofList name)
  | _ => none

def paramText : Option Json → String
  | some (.string s) => s
  | some j => j.render
  | none => "<no value>"

/-- Text of one piece. An action that names no parameter stands for itself. -/
def Piece.render (params : List (String × Json)) : Piece → String
  | .literal c => c.toString
  | .action inner =>
    match name? inner with
    | some name => paramText (params.lookup name)
    | none => "\x7b\x7b" ++ String.ofList inner ++ "\x7d\x7d"
  | .unclosed inner => "\x7b\x7b" ++ String.ofList inner

def render (template : String) (params : List (String × Json)) : String :=
  String.join ((scan none template.toList).map (Piece.render params))

end MessageTemplate

/-- The message: the template with its parameters filled in. Filled-in text is not read again. -/
def Violation.message (v : Violation) : String := MessageTemplate.render v.template v.params

end Verdict
