import Verdict.Rules.Leaf
import Verdict.Validation.MapKeys
import Verdict.Validation.StructFields

/-! Rules, lists of rules, and what they ask of a value. -/
namespace Verdict

inductive Rule where
  | leaf (l : Leaf)
  /-- A check from outside. It may say that it ends the list of rules that it is in. -/
  | custom (check : Check) (ends : Bool)
  | skip (active : Bool)
  | choose (condition : Bool) (rules otherwise : List Rule)
  | each (rules : List Rule) (failFast : Bool)
  | map (keys : List (KeyBinding (List Rule))) (allowExtra : Bool)
  /-- A rule that another object holds, which passes on all it is asked. -/
  | wrapped (rule : Rule)

/-- The rule ends the list of rules that it is in. -/
def Rule.skips : Rule → Bool
  | .skip active => active
  | .custom _ ends => ends
  | .wrapped rule => rule.skips
  | .leaf _ | .choose _ _ _ | .each _ _ | .map _ _ => false

mutual

def Rule.check : Rule → Check
  | .leaf l => fun _ v => (Run.silent (l.outcome v)).witnessed
  | .custom check _ => fun c v => (check c v).witnessed
  | .skip _ => fun _ _ => .ok
  | .choose condition rules otherwise =>
    if condition then Rule.checkAll rules else Rule.checkAll otherwise
  | .each rules failFast =>
    .each failFast (.afterSelf (rules.any Rule.skips) (Rule.checkAll rules))
  | .map keys allowExtra => .mapKeys (Rule.keyChecks keys) allowExtra
  | .wrapped rule => rule.check

/-- What a list of rules asks: all its rules in order, up to the first that fails or skips. -/
def Rule.checkAll : List Rule → Check
  | [] => fun _ _ => .ok
  | r :: rs => fun c v =>
    if r.skips then .ok else (r.check c v).andThen fun () => Rule.checkAll rs c v

def Rule.keyChecks : List (KeyBinding (List Rule)) → List (KeyBinding Check)
  | [] => []
  | b :: bs =>
    ⟨b.key, .afterSelf (b.rules.any Rule.skips) (Rule.checkAll b.rules), b.optional⟩
      :: Rule.keyChecks bs

end

namespace Rule

/-- Validation against a list of rules: the value validates itself first, unless one of
the rules skips. -/
def validate (rules : List Rule) : Check := .afterSelf (rules.any skips) (checkAll rules)

def validateStruct (bindings : List (FieldBinding (List Rule))) : Check :=
  .structFields (bindings.map fun b => ⟨b.path, validate b.rules⟩)

end Rule
end Verdict
