import Verdict.Errors.Error

/-! Errors by key: a sorted store in which the last write of a key wins and entries may
be absent. -/
namespace Verdict
namespace KeyedErrors

def empty : KeyedErrors := []

def set (es : KeyedErrors) (key : String) (error : Option Error) : KeyedErrors :=
  SortedEntries.insert key error es

def insert (es : KeyedErrors) (key : String) (error : Error) : KeyedErrors :=
  set es key (some error)

def ofList (entries : List (String × Option Error)) : KeyedErrors := SortedEntries.ofList entries

/-- Writes every entry of another store, the absent ones included. -/
def merge (es new : KeyedErrors) : KeyedErrors := SortedEntries.insertAll new es

def get? (es : KeyedErrors) (key : String) : Option Error := (SortedEntries.get? key es).join

def contains (es : KeyedErrors) (key : String) : Bool := (get? es key).isSome

def toList (es : KeyedErrors) : List (String × Error) :=
  List.filterMap (fun p => p.2.map (p.1, ·)) es

def keys (es : KeyedErrors) : List String := (toList es).map Prod.fst

/-- Without the absent entries, or nothing when no other is left. -/
def filter (es : KeyedErrors) : Option KeyedErrors :=
  match List.filter (fun p => p.2.isSome) es with
  | [] => none
  | e :: rest => some (e :: rest)

def toOutcome (es : KeyedErrors) : Outcome :=
  match filter es with
  | some es => .error (.fields es)
  | none => .ok ()

end KeyedErrors
end Verdict
