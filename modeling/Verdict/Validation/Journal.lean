import Verdict.Errors.KeyedErrors
import Verdict.Validation.Context

/-! Runs of a validation: what happened in order, and the outcome. -/
namespace Verdict

/-- Something that happened during a validation. -/
inductive Event where
  | began
  /-- The last one begun and not yet answered has answered. -/
  | answered (outcome : Outcome)
  /-- A traversal has come upon something it is not made for. -/
  | raised (fault : Fault Error)
  | noted (text : String)
  | structOpened (name : String) (bindings : Nat)
  | mapOpened (bindings entries : Nat)
  | structAborted (name path message : String)
  | mapAborted (key message : String)

/-- A run is its events in order and its outcome. -/
structure Run where
  events : List Event
  outcome : Outcome

namespace Run

def silent (outcome : Outcome) : Run := ⟨[], outcome⟩

def ok : Run := silent (.ok ())

def fail (e : Error) : Run := silent (.error e)

def raise (fault : Fault Error) : Run := ⟨[.raised fault], .error (.internal fault)⟩

def after (events : List Event) (r : Run) : Run := ⟨events ++ r.events, r.outcome⟩

def andThen (r : Run) (next : Unit → Run) : Run :=
  match r.outcome with
  | .ok () => (next ()).after r.events
  | .error _ => r

def reportAbort (r : Run) (event : String → Event) : Run :=
  match r.outcome with
  | .error e => if e.isInternal then ⟨r.events ++ [event e.message], r.outcome⟩ else r
  | .ok () => r

/-- Marks a run as that of a leaf rule, a custom check or a self-validation. -/
def witnessed (r : Run) : Run := ⟨.began :: r.events ++ [.answered r.outcome], r.outcome⟩

end Run

/-- A validation that a value brings along: it knows its subject and is told the context. -/
abbrev Validator := Context → Run

/-- The validator of a value that holds another one: it passes the context on. -/
def Validator.wrapped (w : Validator) : Validator := fun c => w c

/-- Checks items in turn and writes their errors upon what has been collected so far.
An internal error ends the run at once; so does the first error when failing fast. -/
def collect {α : Type} (failFast : Bool) (write : α → Error → KeyedErrors → KeyedErrors)
    (check : α → Run) : KeyedErrors → List α → Run
  | es, [] => .silent es.toOutcome
  | es, x :: xs =>
    let r := check x
    match r.outcome with
    | .ok () => (collect failFast write check es xs).after r.events
    | .error e =>
      if e.isInternal then r
      else if failFast then ⟨r.events, (write x e es).toOutcome⟩
      else (collect failFast write check (write x e es) xs).after r.events

def underKey {α : Type} (key : α → String) (x : α) (e : Error) (es : KeyedErrors) : KeyedErrors :=
  es.insert (key x) e

end Verdict
