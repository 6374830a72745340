import Verdict.Proofs.CollectedErrors
import Verdict.Proofs.CompositionalRuns
import Verdict.Proofs.TraversalAgreement

/-! The way of a validation through structs and maps: it enters them, turns to what is bound in
them, and leaves them again. What has been entered and not left is open. -/
namespace Verdict

/-- The validation of a struct or of a map, once begun. -/
inductive Traversal where
  | struct (name : String) (bindings : Nat)
  | map (bindings entries : Nat)

def Traversal.opening : Traversal → Event
  | .struct name bindings => .structOpened name bindings
  | .map bindings entries => .mapOpened bindings entries

/-- Where a traversal is. A binding is known by its path or, in a map, by the text of the form
of its key that the map stores. -/
inductive Traversal.Place where
  | start
  | field (path : String)
  | missing (index : Nat)
  | key (text : String)

/-- An open traversal. -/
structure Frame where
  traversal : Traversal
  place : Traversal.Place

inductive Move where
  | enter (t : Traversal)
  | turn (p : Traversal.Place)
  | leave

/-- What a move does to the open traversals, the innermost of which comes first. -/
def Move.act : List Frame → Move → List Frame
  | stack, .enter t => ⟨t, .start⟩ :: stack
  | f :: stack, .turn p => { f with place := p } :: stack
  | _ :: stack, .leave => stack
  | [], _ => []

def openAfter (stack : List Frame) (moves : List Move) : List Frame := moves.foldl Move.act stack

def Move.opening? : Move → Option Event
  | .enter t => some t.opening
  | _ => none

def openings (moves : List Move) : List Event := moves.filterMap Move.opening?

section Moves
variable (stack : List Frame) (first second : List Move)

@[simp] theorem openAfter_nil : openAfter stack [] = stack := rfl

@[simp] theorem openAfter_cons (m : Move) :
    openAfter stack (m :: first) = openAfter (m.act stack) first := rfl

@[simp] theorem openAfter_append :
    openAfter stack (first ++ second) = openAfter (openAfter stack first) second :=
  List.foldl_append

@[simp] theorem openings_append : openings (first ++ second) = openings first ++ openings second :=
  List.filterMap_append

@[simp] theorem openings_enter (t : Traversal) :
    openings (.enter t :: first) = t.opening :: openings first := rfl

@[simp] theorem openings_turn (p : Traversal.Place) :
    openings (.turn p :: first) = openings first := rfl

end Moves

abbrev Tour := Context → Value → List Move

/-- Code from outside: the values that it may be handed, and the moves that it makes. -/
structure Outside where
  subject : Value → Prop
  inherited : Value.Inherited subject
  check : Check → Tour
  validator : Validator → Context → List Move

namespace Tour

/-- The moves of a run, and of a second one if the first passed. -/
def andThen (r : Run) (first second : List Move) : List Move :=
  match r.outcome with
  | .ok () => first ++ second
  | .error _ => first

/-- The moves of items checked in turn, up to the one that ends the loop. -/
def loop {α : Type} (failFast : Bool) (check : α → Run) : List (α × List Move) → List Move
  | [] => []
  | (x, moves) :: rest =>
    match (check x).outcome with
    | .ok () => moves ++ loop failFast check rest
    | .error e => if e.isInternal || failFast then moves else moves ++ loop failFast check rest

/-- A traversal is entered and, unless it ends in an internal error, left. -/
def within (t : Traversal) (o : Outcome) (moves : List Move) : List Move :=
  .enter t :: moves ++ if o.isInternal then [] else [.leave]

def ofOwn (outside : Outside) (c : Context) (v : Value) : List Move :=
  match v.validator? with
  | some validator => outside.validator validator c
  | none => []

/-- The moves of self-validation. A collection is not itself traversed by it. -/
def ofSelf (outside : Outside) (c : Context) (v : Value) : List Move :=
  if v.kind = .collection then
    loop false (fun e : String × Value => e.2.ownValidation c)
      (v.entries.map fun e => (e, ofOwn outside c e.2))
  else ofOwn outside c v

def afterSelf (outside : Outside) (skipSelf : Bool) (tour : Tour) : Tour := fun c v =>
  if skipSelf then tour c v else andThen (v.validateSelf c) (ofSelf outside c v) (tour c v)

def each (failFast : Bool) (check : Check) (tour : Tour) : Tour := fun c v =>
  loop failFast (fun e : String × Value => check c e.2) (v.entries.map fun e => (e, tour c e.2))

end Tour

namespace KeyBinding

/-- The binding without the moves that come with its check. -/
def checked (b : KeyBinding (Check × Tour)) : KeyBinding Check := ⟨b.key, b.rules.1, b.optional⟩

def moves (kind : KeyKind) (entries : List (MapKey × Value)) (c : Context)
    (b : KeyBinding (Check × Tour)) : List Move :=
  match b.key.coerce? kind with
  | none => []
  | some key =>
    .turn (.key key.render) ::
      match SortedEntries.get? key entries with
      | some v => b.rules.2 c v
      | none => []

end KeyBinding

/-- What is gone through in a map, each with its moves. A key that nothing is bound to has none. -/
def Tour.keyItems (kind : KeyKind) (entries : List (MapKey × Value)) (c : Context)
    (bindings : List (KeyBinding (Check × Tour))) (allowExtra : Bool) :
    List (KeyItem × List Move) :=
  let extra := if allowExtra then [] else
    KeyBinding.undeclared kind entries (bindings.map KeyBinding.checked)
  bindings.map (fun b => (.bound b.checked, b.moves kind entries c)) ++
    extra.map fun k => (.extra k, [])

def Tour.mapKeys (bindings : List (KeyBinding (Check × Tour))) (allowExtra : Bool) : Tour :=
  fun c v =>
    match v with
    | .map kind entries =>
      within (.map bindings.length entries.length)
        (Check.mapKeys (bindings.map KeyBinding.checked) allowExtra c v).outcome
        (loop false (KeyItem.check kind entries c) (keyItems kind entries c bindings allowExtra))
    | _ => []

mutual

/-- The moves of the check of a rule. -/
def Rule.tour (outside : Outside) : Rule → Tour
  | .leaf _ => fun _ _ => []
  | .custom check _ => outside.check check
  | .skip _ => fun _ _ => []
  | .choose condition rules otherwise =>
    if condition then Rule.tourAll outside rules else Rule.tourAll outside otherwise
  | .each rules failFast =>
    .each failFast (Rule.validate rules)
      (.afterSelf outside (rules.any Rule.skips) (Rule.tourAll outside rules))
  | .map keys allowExtra => .mapKeys (Rule.keyTours outside keys) allowExtra
  | .wrapped rule => rule.tour outside

def Rule.tourAll (outside : Outside) : List Rule → Tour
  | [] => fun _ _ => []
  | r :: rs => fun c v =>
    if r.skips then []
    else Tour.andThen (r.check c v) (r.tour outside c v) (Rule.tourAll outside rs c v)

def Rule.keyTours (outside : Outside) :
    List (KeyBinding (List Rule)) → List (KeyBinding (Check × Tour))
  | [] => []
  | b :: bs =>
    ⟨b.key, (Rule.validate b.rules,
        .afterSelf outside (b.rules.any Rule.skips) (Rule.tourAll outside b.rules)), b.optional⟩
      :: Rule.keyTours outside bs

end

namespace Rule

def validateTour (outside : Outside) (rules : List Rule) : Tour :=
  .afterSelf outside (rules.any skips) (tourAll outside rules)

def fieldMoves (outside : Outside) (c : Context) (v : Value)
    (p : FieldBinding (List Rule) × Nat) : List Move :=
  match v.resolve? p.1.path with
  | none => [.turn (.missing p.2)]
  | some (f, _) => .turn (.field p.1.path) :: validateTour outside p.1.rules c f.value

def fieldItems (outside : Outside) (c : Context) (v : Value)
    (bindings : List (FieldBinding (List Rule))) : List (FieldItem × List Move) :=
  bindings.zipIdx.map fun p =>
    (⟨p.2, ⟨p.1.path, validate p.1.rules⟩, v.resolve? p.1.path⟩, fieldMoves outside c v p)

def structTour (outside : Outside) (bindings : List (FieldBinding (List Rule))) : Tour :=
  fun c v =>
    match v with
    | .struct name _ _ =>
      Tour.within (.struct name bindings.length) (validateStruct bindings c v).outcome
        (Tour.loop false (FieldItem.check name c) (fieldItems outside c v bindings))
    | _ => []

end Rule
end Verdict
