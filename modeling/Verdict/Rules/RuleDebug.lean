import Verdict.Errors.ErrorDebug
import Verdict.Rules.Rule

/-! Diagnostic text of rules and bindings. -/
namespace Verdict

def debugRecord (name : String) (fields : List (String × String)) : String :=
  name ++ " \x7b " ++ String.intercalate ", " (fields.map fun f => f.1 ++ ": " ++ f.2) ++ " \x7d"

def debugBool (b : Bool) : String := if b then "true" else "false"

def debugOption (o : Option String) : String :=
  match o with
  | some s => "Some(" ++ s ++ ")"
  | none => "None"

def LengthUnit.name : LengthUnit → String
  | .bytes => "Bytes"
  | .scalars => "Chars"

def Bound.name : Bound → String
  | .least => "Min"
  | .greatest => "Max"

def Leaf.debug (l : Leaf) : String :=
  let err := ("err", l.template.debug)
  match l.test with
  | .presence applies nilPasses => debugRecord "RequiredRule"
      [("condition", debugBool applies), ("skip_nil", debugBool nilPasses), err]
  | .notNil => debugRecord "NotNilRule" [err]
  | .absence applies emptyPasses => debugRecord "AbsentRule"
      [("condition", debugBool applies), ("skip_nil", debugBool emptyPasses), err]
  | .length min max unit => debugRecord "LengthRule"
      [("min", toString min.toNat), ("max", toString max.toNat), ("mode", unit.name), err]
  | .threshold limit bound exclusive => debugRecord "ThresholdRule"
      [("threshold", limit.debug), ("bound", bound.name), ("exclusive", debugBool exclusive), err]
  | .multipleOf base => debugRecord "MultipleOfRule" [("base", base.debug), err]
  | .membership elements negated => debugRecord "InRule"
      [("elements", "[" ++ String.intercalate ", " (elements.map Value.debug) ++ "]"),
        ("negated", debugBool negated), err]
  | .matching source _ => debugRecord "MatchRule" [("re", "Regex(" ++ quoted source ++ ")"), err]
  | .date layout earliest latest rangeError => debugRecord "DateRule"
      [("layout", quoted layout),
        ("min", debugOption (earliest.map fun m => (ForeignContent.instant m).debug)),
        ("max", debugOption (latest.map fun m => (ForeignContent.instant m).debug)),
        err, ("range_err", rangeError.debug)]
  | .text _ => "StringRule \x7b err: " ++ l.template.debug ++ ", .. \x7d"

/-- Rules are shown by their number. -/
def KeyBinding.debug (b : KeyBinding (List Rule)) : String :=
  debugRecord "KeyRules"
    [("key", b.key.debug), ("rules", toString b.rules.length), ("optional", debugBool b.optional)]

def FieldBinding.debug (b : FieldBinding (List Rule)) : String :=
  debugRecord "FieldRules" [("path", quoted b.path), ("rules", toString b.rules.length)]

def Rule.debug : Rule → String
  | .leaf l => l.debug
  | .custom _ _ => "InlineRule"
  | .skip active => debugRecord "SkipRule" [("skip", debugBool active)]
  | .choose condition rules otherwise => debugRecord "WhenRule"
      [("condition", debugBool condition), ("rules", toString rules.length),
        ("otherwise", toString otherwise.length)]
  | .each rules failFast => debugRecord "EachRule"
      [("rules", toString rules.length), ("fail_fast", debugBool failFast)]
  | .map keys allowExtra => debugRecord "MapRule"
      [("keys", "[" ++ String.intercalate ", " (keys.map KeyBinding.debug) ++ "]"),
        ("allow_extra_keys", debugBool allowExtra)]
  | .wrapped rule => rule.debug

end Verdict
