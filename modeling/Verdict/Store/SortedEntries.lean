/-! Association lists in ascending key order, with one entry per key and the last write winning. -/
namespace Verdict
namespace SortedEntries

variable {κ α : Type} [Ord κ]

/-- Writes an entry at its place, replacing an entry of the same key. -/
def insert (k : κ) (a : α) : List (κ × α) → List (κ × α)
  | [] => [(k, a)]
  | (k', a') :: rest =>
    match compare k k' with
    | .lt => (k, a) :: (k', a') :: rest
    | .eq => (k, a) :: rest
    | .gt => (k', a') :: insert k a rest

def get? (k : κ) : List (κ × α) → Option α
  | [] => none
  | (k', a) :: rest => if compare k k' == .eq then some a else get? k rest

def contains (k : κ) (es : List (κ × α)) : Bool := (get? k es).isSome

def insertAll (new es : List (κ × α)) : List (κ × α) :=
  new.foldl (fun es e => insert e.1 e.2 es) es

def ofList (es : List (κ × α)) : List (κ × α) := insertAll es []

/-- Keys in strictly ascending order. -/
def Sorted (es : List (κ × α)) : Prop := es.Pairwise fun a b => compare a.1 b.1 = .lt

end SortedEntries
end Verdict
