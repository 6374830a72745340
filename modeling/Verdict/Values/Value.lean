import Verdict.Calendar.Moment
import Verdict.Numbers.NearestRounding
import Verdict.Text.LossyUtf8
import Verdict.Validation.Journal
import Verdict.Values.MapKey

/-! Values that can be validated: one dynamic type, with its measures and conversions. -/
namespace Verdict

/-- What a value of a type outside the model shows of itself. -/
inductive ForeignContent where
  | custom (typeName : String) (zero : Bool) (text debug : String)
  | instant (m : Moment)
  | clockTime (m : Moment)
  | date (d : Date)
deriving DecidableEq

/-- A value of a type outside the model. Two are the same only if they are one object,
which the identity tells. -/
structure Foreign where
  identity : Nat
  content : ForeignContent
deriving DecidableEq

/-- A field of a struct. The fields of an embedded struct can be addressed through it. -/
structure Field (α : Type) where
  name : String
  tag : Option String
  embedded : Bool
  value : α

/-- A value. Entries of a map are in ascending key order; a struct may bring a
validation of its own. -/
inductive Value where
  | nil
  | bool (b : Bool)
  | int (n : Int64)
  | uint (n : UInt64)
  | float (x : Binary64)
  | text (s : String)
  | bytes (bs : List UInt8)
  | list (items : List Value)
  | map (kind : KeyKind) (entries : List (MapKey × Value))
  | struct (name : String) (fields : List (Field Value)) (validator : Option Validator)
  | foreign (f : Foreign)

inductive ValueKind where
  | nil | bool | number | text | collection | struct | other
deriving DecidableEq

namespace ForeignContent

def typeName : ForeignContent → String
  | .custom typeName _ _ _ => typeName
  | .instant _ => "datetime"
  | .clockTime _ => "naive datetime"
  | .date _ => "date"

def isZero : ForeignContent → Bool
  | .custom _ zero _ _ => zero
  | .instant m => m == .least
  | .clockTime m => m == .least
  | .date d => d == .least

def moment? : ForeignContent → Option Moment
  | .custom _ _ _ _ => none
  | .instant m => some m
  | .clockTime m => some m
  | .date d => some (.midnight d)

end ForeignContent

/-- The key under which errors of a field are reported: the first part of its tag,
unless that is empty or a hyphen, and otherwise its name. -/
def Field.errorKey {α : Type} (f : Field α) : String :=
  match f.tag with
  | some tag =>
    let first := String.ofList (tag.toList.takeWhile (· != ','))
    if first == "" || first == "-" then f.name else first
  | none => f.name

namespace Value

def kind : Value → ValueKind
  | .nil => .nil
  | .bool _ => .bool
  | .int _ | .uint _ | .float _ => .number
  | .text _ | .bytes _ => .text
  | .list _ | .map _ _ => .collection
  | .struct _ _ _ => .struct
  | .foreign _ => .other

def typeName : Value → String
  | .nil => "nil"
  | .bool _ => "bool"
  | .int _ => "int"
  | .uint _ => "uint"
  | .float _ => "float"
  | .text _ => "string"
  | .bytes _ => "bytes"
  | .list _ => "list"
  | .map _ _ => "map"
  | .struct _ _ _ => "struct"
  | .foreign f => f.content.typeName

def isNil : Value → Bool
  | .nil => true
  | _ => false

/-- Nothing, false, zero, and text or collections without elements are empty. A struct never is. -/
def isEmpty : Value → Bool
  | .nil => true
  | .bool b => !b
  | .int n => n == 0
  | .uint n => n == 0
  | .float x => x.isZero
  | .text s => s == ""
  | .bytes bs => bs.isEmpty
  | .list items => items.isEmpty
  | .map _ entries => entries.isEmpty
  | .struct _ _ _ => false
  | .foreign f => f.content.isZero

/-- Bytes of text and byte strings, elements of collections. -/
def length? : Value → Option Nat
  | .text s => some s.utf8ByteSize
  | .bytes bs => some bs.length
  | .list items => some items.length
  | .map _ entries => some entries.length
  | _ => none

/-- Elements of a list with their indices, or of a map with the text of their keys. -/
def entries : Value → List (String × Value)
  | .list items => items.zipIdx.map fun p => (toString p.2, p.1)
  | .map _ entries => entries.map fun p => (p.1.render, p.2)
  | _ => []

def insertEntry (kind : KeyKind) (key : MapKey) (v : Value) (entries : List (MapKey × Value)) :
    List (MapKey × Value) :=
  SortedEntries.insert (key.stored kind) v entries

def mapOfList (kind : KeyKind) (entries : List (MapKey × Value)) : Value :=
  .map kind (entries.foldl (fun es e => insertEntry kind e.1 e.2 es) [])

def conversionViolation (v : Value) (target : String) : Violation :=
  ((Violation.plain "validation_conversion_invalid"
    "cannot convert \x7b\x7b.from\x7d\x7d to \x7b\x7b.to\x7d\x7d").withParam "from"
      (.string v.typeName)).withParam "to" (.string target)

def notStringViolation : Violation :=
  .plain "validation_not_string" "must be either a string or byte slice"

def toInt64 (v : Value) : Except Violation Int64 :=
  match v with
  | .int n => .ok n
  | .uint n =>
    match MapKey.signed? n with
    | some n => .ok n
    | none => .error (v.conversionViolation "int")
  | _ => .error (v.conversionViolation "int")

def toUInt64 (v : Value) : Except Violation UInt64 :=
  match v with
  | .uint n => .ok n
  | .int n =>
    match MapKey.unsigned? n with
    | some n => .ok n
    | none => .error (v.conversionViolation "uint")
  | _ => .error (v.conversionViolation "uint")

def toBinary64 (v : Value) : Except Violation Binary64 :=
  match v with
  | .float x => .ok x
  | .int n => .ok (.ofInt n.toInt)
  | .uint n => .ok (.ofInt n.toNat)
  | _ => .error (v.conversionViolation "float")

def moment? : Value → Option Moment
  | .foreign f => f.content.moment?
  | _ => none

def toMoment (v : Value) : Except Violation Moment :=
  match v.moment? with
  | some m => .ok m
  | none => .error (v.conversionViolation "datetime")

def toText : Value → Except Violation String
  | .text s => .ok s
  | .bytes bs => .ok (lossyText bs)
  | _ => .error notStringViolation

end Value
end Verdict
