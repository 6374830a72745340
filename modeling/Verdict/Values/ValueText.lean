import Verdict.Json.JsonText
import Verdict.Values.Value

/-! Text of values: for messages, for diagnostic output, and as JSON. -/
namespace Verdict

def ForeignContent.render : ForeignContent → String
  | .custom _ _ text _ => text
  | .instant m => m.render " " ++ " UTC"
  | .clockTime m => m.render " "
  | .date d => d.render

def ForeignContent.debug : ForeignContent → String
  | .custom _ _ _ debug => debug
  | .instant m => m.render "T" ++ "Z"
  | .clockTime m => m.render "T"
  | .date d => d.render

namespace Value

mutual

/-- Text for messages; of a struct only its name is shown. -/
def render : Value → String
  | .nil => "<nil>"
  | .bool b => if b then "true" else "false"
  | .int n => toString n.toInt
  | .uint n => toString n.toNat
  | .float x => FloatLayout.plain.render x
  | .text s => s
  | .bytes bs => lossyText bs
  | .list items => "[" ++ String.intercalate " " (renderEach items) ++ "]"
  | .map _ entries => "map[" ++ String.intercalate " " (renderEntries entries) ++ "]"
  | .struct name _ _ => name ++ "\x7b..\x7d"
  | .foreign f => f.content.render

def renderEach : List Value → List String
  | [] => []
  | v :: rest => v.render :: renderEach rest

def renderEntries : List (MapKey × Value) → List String
  | [] => []
  | (k, v) :: rest => (k.render ++ ":" ++ v.render) :: renderEntries rest

end

mutual

/-- The JSON document of a value. A number that is not finite has none; of struct
fields of one name the last counts. -/
def toJson : Value → Json
  | .nil => .null
  | .bool b => .bool b
  | .int n => .number (.ofInt64 n)
  | .uint n => .number (.natural n)
  | .float x => if x.isFinite then .number (.float x) else .null
  | .text s => .string s
  | .bytes bs => .string (lossyText bs)
  | .list items => .array (jsonItems items)
  | .map _ entries => .ofMembers (jsonMembers entries)
  | .struct _ fields _ => .ofMembers (jsonFields fields)
  | .foreign f => .string f.content.render

def jsonItems : List Value → List Json
  | [] => []
  | v :: rest => v.toJson :: jsonItems rest

def jsonMembers : List (MapKey × Value) → List (String × Json)
  | [] => []
  | (k, v) :: rest => (k.render, v.toJson) :: jsonMembers rest

def jsonFields : List (Field Value) → List (String × Json)
  | [] => []
  | f :: rest => (f.name, f.value.toJson) :: jsonFields rest

end

mutual

/-- The value of a JSON document. Objects become maps with text keys; an integer is
signed where it fits. -/
def ofJson : Json → Value
  | .null => .nil
  | .bool b => .bool b
  | .number (.natural n) => (MapKey.signed? n).elim (.uint n) .int
  | .number (.negative n) => .int n
  | .number (.float x) => .float x
  | .string s => .text s
  | .array items => .list (ofJsonItems items)
  | .object members => mapOfList .text (ofJsonMembers members)

def ofJsonItems : List Json → List Value
  | [] => []
  | j :: rest => ofJson j :: ofJsonItems rest

def ofJsonMembers : List (String × Json) → List (MapKey × Value)
  | [] => []
  | (k, j) :: rest => (.text k, ofJson j) :: ofJsonMembers rest

end

mutual

def debug : Value → String
  | .nil => "Nil"
  | .bool b => "Bool(" ++ (if b then "true" else "false") ++ ")"
  | .int n => "Int(" ++ toString n.toInt ++ ")"
  | .uint n => "Uint(" ++ toString n.toNat ++ ")"
  | .float x => "Float(" ++ FloatLayout.debug.render x ++ ")"
  | .text s => "Text(" ++ quoted s ++ ")"
  | .bytes bs => "Bytes([" ++ String.intercalate ", " (bs.map fun b => toString b.toNat) ++ "])"
  | .list items => "List([" ++ String.intercalate ", " (debugEach items) ++ "])"
  | .map kind entries =>
    "Map(MapValue \x7b key_kind: " ++ kind.name ++ ", entries: \x7b"
      ++ String.intercalate ", " (debugEntries entries) ++ "\x7d \x7d)"
  | .struct name fields validator =>
    "Struct(StructValue \x7b name: " ++ quoted name ++ ", fields: ["
      ++ String.intercalate ", " (debugFields fields) ++ "], validated: "
      ++ (if validator.isSome then "true" else "false") ++ " \x7d)"
  | .foreign f => "Opaque(" ++ f.content.debug ++ ")"

def debugEach : List Value → List String
  | [] => []
  | v :: rest => v.debug :: debugEach rest

def debugEntries : List (MapKey × Value) → List String
  | [] => []
  | (k, v) :: rest => (k.debug ++ ": " ++ v.debug) :: debugEntries rest

def debugFields : List (Field Value) → List String
  | [] => []
  | f :: rest =>
    ("FieldValue \x7b name: " ++ quoted f.name ++ ", tag: "
      ++ (match f.tag with
        | some tag => "Some(" ++ quoted tag ++ ")"
        | none => "None")
      ++ ", embedded: " ++ (if f.embedded then "true" else "false") ++ ", value: "
      ++ f.value.debug ++ " \x7d") :: debugFields rest

end

end Value
end Verdict
