import Verdict.Validation.Check

/-! The validation of the keys of a map: those that are bound, and those that are not. -/
namespace Verdict

/-- What is asked of the entry of a key, which may be missing if it is optional. -/
structure KeyBinding (ρ : Type) where
  key : MapKey
  rules : ρ
  optional : Bool

namespace KeyBinding

def wrongType : Violation := .plain "validation_key_wrong_type" "key not the correct type"

def missing : Violation := .plain "validation_key_missing" "required key is missing"

def unexpected : Violation := .plain "validation_key_unexpected" "key not expected"

def check (kind : KeyKind) (entries : List (MapKey × Value)) (c : Context)
    (b : KeyBinding Check) : Run :=
  match b.key.coerce? kind with
  | none => .fail (.violation wrongType)
  | some key =>
    match SortedEntries.get? key entries with
    | some v => (b.rules c v).reportAbort (.mapAborted key.render)
    | none => if b.optional then .ok else .fail (.violation missing)

def undeclared {ρ : Type} (kind : KeyKind) (entries : List (MapKey × Value))
    (bindings : List (KeyBinding ρ)) : List MapKey :=
  (entries.map Prod.fst).filter fun k => !bindings.any fun b => b.key.coerce? kind == some k

end KeyBinding

inductive KeyItem where
  | bound (b : KeyBinding Check)
  | extra (k : MapKey)

namespace KeyItem

/-- The text of a key is the same in every form of it. -/
def label : KeyItem → String
  | .bound b => b.key.render
  | .extra k => k.render

def check (kind : KeyKind) (entries : List (MapKey × Value)) (c : Context) : KeyItem → Run
  | .bound b => b.check kind entries c
  | .extra _ => .fail (.violation KeyBinding.unexpected)

end KeyItem

/-- The check of the bound keys in their order, and then of those that nothing is bound
to, unless these are allowed. -/
def Check.mapKeys (bindings : List (KeyBinding Check)) (allowExtra : Bool) : Check := fun c v =>
  match v with
  | .nil => .ok
  | .map kind entries =>
    let extra := if allowExtra then [] else KeyBinding.undeclared kind entries bindings
    (collect false (underKey KeyItem.label) (KeyItem.check kind entries c) []
      (bindings.map .bound ++ extra.map .extra)).after [.mapOpened bindings.length entries.length]
  | _ => .raise .notMap

end Verdict
