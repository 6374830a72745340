import Verdict.Rules.Rule

/-! Rules that other objects hold. A wrapper passes on all that it is asked, so lists of rules that
differ in nothing but wrappers, at any depth, ask the same of every value. -/
namespace Verdict
namespace Rule

mutual

/-- The rule without its wrappers and those of the rules inside it. -/
def bare : Rule → Rule
  | .leaf l => .leaf l
  | .custom check ends => .custom check ends
  | .skip active => .skip active
  | .choose condition rules otherwise => .choose condition (bareList rules) (bareList otherwise)
  | .each rules failFast => .each (bareList rules) failFast
  | .map keys allowExtra => .map (bareKeys keys) allowExtra
  | .wrapped rule => rule.bare

def bareList : List Rule → List Rule
  | [] => []
  | r :: rs => r.bare :: bareList rs

def bareKeys : List (KeyBinding (List Rule)) → List (KeyBinding (List Rule))
  | [] => []
  | b :: bs => ⟨b.key, bareList b.rules, b.optional⟩ :: bareKeys bs

end

theorem bareList_append (rules more : List Rule) :
    bareList (rules ++ more) = bareList rules ++ bareList more := by
  induction rules with
  | nil => rfl
  | cons r rs ih => rw [List.cons_append, bareList, bareList, ih, List.cons_append]

theorem skips_bare : ∀ r : Rule, r.bare.skips = r.skips
  | .leaf _ | .custom _ _ | .skip _ | .choose _ _ _ | .each _ _ | .map _ _ => rfl
  | .wrapped rule => skips_bare rule

theorem any_skips_bareList (rules : List Rule) : (bareList rules).any skips = rules.any skips := by
  induction rules with
  | nil => rfl
  | cons r rs ih => rw [bareList, List.any_cons, List.any_cons, skips_bare, ih]

mutual

/-- Wrappers, at any depth, change nothing of what a rule asks. -/
theorem check_bare (r : Rule) : r.bare.check = r.check := by
  cases r with
  | leaf l | custom check ends | skip active => rfl
  | choose condition rules otherwise =>
    rw [bare, check, check, checkAll_bareList rules, checkAll_bareList otherwise]
  | each rules failFast =>
    rw [bare, check, check, checkAll_bareList rules, any_skips_bareList]
  | map keys allowExtra => rw [bare, check, check, keyChecks_bareKeys keys]
  | wrapped rule =>
    rw [bare, check]
    exact check_bare rule

theorem checkAll_bareList (rules : List Rule) : checkAll (bareList rules) = checkAll rules := by
  cases rules with
  | nil => rfl
  | cons r rs => rw [bareList, checkAll, checkAll, skips_bare, check_bare r, checkAll_bareList rs]

theorem keyChecks_bareKeys (keys : List (KeyBinding (List Rule))) :
    keyChecks (bareKeys keys) = keyChecks keys := by
  cases keys with
  | nil => rfl
  | cons b bs =>
    obtain ⟨key, rules, optional⟩ := b
    rw [bareKeys, keyChecks, keyChecks, any_skips_bareList, checkAll_bareList rules,
      keyChecks_bareKeys bs]

end

/-- Lists that differ in wrappers only validate alike. -/
theorem validate_bareList (rules : List Rule) : validate (bareList rules) = validate rules := by
  rw [validate, validate, any_skips_bareList, checkAll_bareList]

end Rule
end Verdict
