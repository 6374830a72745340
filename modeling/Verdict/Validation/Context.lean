import Verdict.Numbers.Binary64
import Verdict.Store.SortedEntries
import Verdict.Text.QuotedText

/-! Values that a caller hands to the rules: a chain of scopes, looked up from the inside out. -/
namespace Verdict

/-- A type of values. Any name that a caller gives to values of his own is one. -/
structure ItemType where
  name : String
deriving DecidableEq

/-- What a value is made of, whatever its type. -/
inductive Datum where
  | bool (b : Bool)
  | number (n : Int)
  | float (x : Binary64)
  | text (s : String)
  | list (items : List Datum)
  | record (fields : List (String × Datum))
  /-- An object of which nothing is known but which one it is. -/
  | object (identity : Nat)

structure Item where
  type : ItemType
  content : Datum

abbrev Scope := List (String × Item)

/-- The innermost scope and those around it, nearest first. -/
structure Context where
  scope : Scope
  outer : List Scope

namespace Context

def background : Context := ⟨[], []⟩

def child (c : Context) : Context := ⟨[], c.scope :: c.outer⟩

def parent? (c : Context) : Option Context :=
  match c.outer with
  | [] => none
  | s :: rest => some ⟨s, rest⟩

def insert (c : Context) (key : String) (item : Item) : Context :=
  { c with scope := SortedEntries.insert key item c.scope }

def nearest? (key : String) : List Scope → Option Item
  | [] => none
  | s :: rest =>
    match SortedEntries.get? key s with
    | some item => some item
    | none => nearest? key rest

def find? (c : Context) (key : String) : Option Item := nearest? key (c.scope :: c.outer)

/-- The value of a key if its nearest binding has the type asked for. A nearer binding
of another type hides one farther out. -/
def get? (c : Context) (type : ItemType) (key : String) : Option Item :=
  match c.find? key with
  | some item => if item.type = type then some item else none
  | none => none

def contains (c : Context) (key : String) : Bool := (c.find? key).isSome

def debugScopes : List Scope → String
  | [] => "None"
  | s :: rest =>
    "Some(ValidationContext \x7b keys: [" ++ String.intercalate ", " (s.map fun e => quoted e.1)
      ++ "], parent: " ++ debugScopes rest ++ " \x7d)"

def debug (c : Context) : String :=
  "ValidationContext \x7b keys: [" ++ String.intercalate ", " (c.scope.map fun e => quoted e.1)
    ++ "], parent: " ++ debugScopes c.outer ++ " \x7d"

end Context
end Verdict
