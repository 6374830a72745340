import Verdict.Proofs.WrappedRules

/-! Lists of rules without their conditions. Choices and skips are settled before any value is
seen, so each list comes to a flat one whose rules run in order. -/
namespace Verdict

/-- The rule inside all wrappers around it. -/
def Rule.core : Rule → Rule
  | .wrapped rule => rule.core
  | r => r

/-- A choice or a skip. It shapes the list that it is in and asks nothing itself. -/
def Rule.isConditional : Rule → Bool
  | .skip _ | .choose _ _ _ => true
  | .wrapped rule => rule.isConditional
  | .leaf _ | .custom _ _ | .each _ _ | .map _ _ => false

mutual

/-- The rules that stand for a rule: those of the branch taken for a choice, none for a skip. Any
other rule stands for itself, wrapped as it is. -/
def Rule.branch : Rule → List Rule
  | .skip _ => []
  | .choose condition rules otherwise =>
    if condition then Rule.flat rules else Rule.flat otherwise
  | .leaf l => [.leaf l]
  | .custom check ends => [.custom check ends]
  | .each rules failFast => [.each rules failFast]
  | .map keys allowExtra => [.map keys allowExtra]
  | .wrapped rule => if rule.isConditional then rule.branch else [.wrapped rule]

/-- The rules that a list comes to, up to its first rule that skips. -/
def Rule.flat : List Rule → List Rule
  | [] => []
  | r :: rs => if r.skips then [] else r.branch ++ Rule.flat rs

end

/-- The run of rules in order: all of them pass, or it ends with the first that fails, in the
error of that one. -/
def RunsInTurn (c : Context) (v : Value) (rules : List Rule) (run : Run) : Prop :=
  (∀ r ∈ rules, (r.check c v).outcome = .ok ()) ∧
      run = ⟨rules.flatMap fun r => (r.check c v).events, .ok ()⟩ ∨
    ∃ before r after e, rules = before ++ r :: after ∧
      (∀ q ∈ before, (q.check c v).outcome = .ok ()) ∧ (r.check c v).outcome = .error e ∧
      run = ⟨(before ++ [r]).flatMap fun r => (r.check c v).events, .error e⟩

namespace Run

theorem andThen_of_ok {r : Run} (next : Unit → Run) (h : r.outcome = .ok ()) :
    r.andThen next = (next ()).after r.events := by
  rw [andThen, h]

theorem andThen_of_error {r : Run} {e : Error} (next : Unit → Run) (h : r.outcome = .error e) :
    r.andThen next = r := by
  rw [andThen, h]

theorem after_after (first second : List Event) (r : Run) :
    (r.after second).after first = r.after (first ++ second) := by
  simp only [after, List.append_assoc]

@[simp] theorem andThen_ok (r : Run) : (r.andThen fun () => ok) = r := by
  cases h : r.outcome with
  | ok u => rw [andThen_of_ok _ h, after, ok, silent, List.append_nil, ← h]
  | error e => exact andThen_of_error _ h

theorem after_andThen (events : List Event) (r : Run) (next : Unit → Run) :
    (r.after events).andThen next = (r.andThen next).after events := by
  cases h : r.outcome with
  | ok u =>
    have ha : (r.after events).outcome = .ok () := h
    rw [andThen_of_ok _ h, andThen_of_ok _ ha, after_after]
    rfl
  | error e =>
    have ha : (r.after events).outcome = .error e := h
    rw [andThen_of_error _ h, andThen_of_error _ ha]

theorem andThen_assoc (r : Run) (second third : Unit → Run) :
    (r.andThen second).andThen third = r.andThen fun () => (second ()).andThen third := by
  cases h : r.outcome with
  | ok u => rw [andThen_of_ok _ h, andThen_of_ok _ h, after_andThen]
  | error e => rw [andThen_of_error _ h, andThen_of_error _ h, andThen_of_error _ h]

end Run

namespace RunsInTurn
variable {c : Context} {v : Value} {r : Rule} {rules : List Rule} {run : Run}

theorem nil : RunsInTurn c v [] .ok := .inl ⟨by simp, rfl⟩

/-- The step: a rule is followed by the others only if it passes. -/
theorem cons (h : RunsInTurn c v rules run) :
    RunsInTurn c v (r :: rules) ((r.check c v).andThen fun () => run) := by
  cases hr : (r.check c v).outcome with
  | error e =>
    refine .inr ⟨[], r, rules, e, rfl, by simp, hr, ?_⟩
    rw [Run.andThen_of_error _ hr, ← hr]
    simp
  | ok u =>
    rw [Run.andThen_of_ok _ hr]
    rcases h with ⟨hall, rfl⟩ | ⟨before, q, after, e, rfl, hbefore, hq, rfl⟩
    · exact .inl ⟨List.forall_mem_cons.mpr ⟨hr, hall⟩, rfl⟩
    · exact .inr ⟨r :: before, q, after, e, rfl, List.forall_mem_cons.mpr ⟨hr, hbefore⟩, hq, rfl⟩

end RunsInTurn

namespace Rule
variable {c : Context} {v : Value} {rules before after : List Rule} {s : Rule}

theorem checkAll_cons {r : Rule} (h : r.skips = false) (rs : List Rule) :
    checkAll (r :: rs) c v = (r.check c v).andThen fun () => checkAll rs c v := by
  simp only [checkAll, h, Bool.false_eq_true, if_false]

theorem checkAll_cons_skip (hs : s.skips = true) (rs : List Rule) :
    checkAll (s :: rs) c v = .ok := by
  simp only [checkAll, hs, if_true]

theorem flat_cons {r : Rule} (h : r.skips = false) (rs : List Rule) :
    flat (r :: rs) = r.branch ++ flat rs := by
  simp only [flat, h, Bool.false_eq_true, if_false]

theorem flat_cons_skip (hs : s.skips = true) (rs : List Rule) : flat (s :: rs) = [] := by
  simp only [flat, hs, if_true]

/-- Without a skip in it, a list runs in order. -/
theorem runsInTurn_checkAll (h : ∀ r ∈ rules, r.skips = false) :
    RunsInTurn c v rules (checkAll rules c v) := by
  induction rules with
  | nil => exact .nil
  | cons r rs ih =>
    obtain ⟨hr, hrs⟩ := List.forall_mem_cons.mp h
    rw [checkAll_cons hr]
    exact (ih hrs).cons

theorem checkAll_append (h : ∀ r ∈ before, r.skips = false) (after : List Rule) :
    checkAll (before ++ after) c v =
      (checkAll before c v).andThen fun () => checkAll after c v := by
  induction before with
  | nil => rfl
  | cons r rs ih =>
    obtain ⟨hr, hrs⟩ := List.forall_mem_cons.mp h
    rw [List.cons_append, checkAll_cons hr, checkAll_cons hr, ih hrs, Run.andThen_assoc]

/-- Nothing after a rule that skips is run. -/
theorem checkAll_append_skip (hs : s.skips = true) :
    checkAll (before ++ s :: after) c v = checkAll before c v := by
  induction before with
  | nil => exact checkAll_cons_skip hs after
  | cons r rs ih =>
    rw [List.cons_append]
    cases hr : r.skips with
    | true => rw [checkAll_cons_skip hr, checkAll_cons_skip hr]
    | false => rw [checkAll_cons hr, checkAll_cons hr, ih]

theorem flat_append (h : ∀ r ∈ before, r.skips = false) (after : List Rule) :
    flat (before ++ after) = flat before ++ flat after := by
  induction before with
  | nil => rfl
  | cons r rs ih =>
    obtain ⟨hr, hrs⟩ := List.forall_mem_cons.mp h
    rw [List.cons_append, flat_cons hr, flat_cons hr, ih hrs, List.append_assoc]

theorem flat_append_skip (hs : s.skips = true) : flat (before ++ s :: after) = flat before := by
  induction before with
  | nil => exact flat_cons_skip hs after
  | cons r rs ih =>
    rw [List.cons_append]
    cases hr : r.skips with
    | true => rw [flat_cons_skip hr, flat_cons_skip hr]
    | false => rw [flat_cons hr, flat_cons hr, ih]

/-- A choice, however wrapped, stands for the flat list of its branch. -/
theorem branch_of_core {condition : Bool} {chosen otherwise : List Rule} (r : Rule)
    (h : r.core = .choose condition chosen otherwise) :
    r.isConditional = true ∧ r.skips = false ∧
      r.branch = flat (if condition then chosen else otherwise) := by
  cases r with
  | wrapped rule =>
    obtain ⟨hconditional, hskips, hbranch⟩ := branch_of_core rule h
    exact ⟨hconditional, hskips, (if_pos hconditional).trans hbranch⟩
  | choose condition chosen otherwise =>
    cases h
    exact ⟨rfl, rfl, (apply_ite flat ..).symm⟩
  | leaf _ | custom _ _ | skip _ | each _ _ | map _ _ => cases h

/-- A choice among the rules of a list stands for its branch, skips of which end no more
than that branch. -/
theorem flat_append_choose (h : ∀ r ∈ before, r.skips = false) {r : Rule} {condition : Bool}
    {chosen otherwise : List Rule} (hr : r.core = .choose condition chosen otherwise)
    (after : List Rule) :
    flat (before ++ r :: after) =
      flat before ++ flat (if condition then chosen else otherwise) ++ flat after := by
  obtain ⟨_, hskips, hbranch⟩ := branch_of_core r hr
  rw [flat_append h, flat_cons hskips, hbranch, List.append_assoc]

mutual

private theorem branch_unconditional (r : Rule) (h : r.skips = false) :
    ∀ q ∈ r.branch, q.isConditional = false ∧ q.skips = false := by
  cases r with
  | skip active => simp [branch]
  | choose condition rules otherwise =>
    cases condition with
    | true => exact flat_unconditional rules
    | false => exact flat_unconditional otherwise
  | leaf _ | each _ _ | map _ _ => simp [branch, isConditional, skips]
  | custom check ends => simpa [branch, isConditional, skips] using h
  | wrapped rule =>
    rw [branch]
    split
    · exact branch_unconditional rule h
    next hc => simpa [isConditional, skips] using ⟨Bool.eq_false_iff.mpr hc, h⟩

/-- A flat list holds neither choices nor skips, nor anything else that would end it. -/
theorem flat_unconditional (rules : List Rule) :
    ∀ q ∈ flat rules, q.isConditional = false ∧ q.skips = false := by
  cases rules with
  | nil => simp [flat]
  | cons r rs =>
    cases hr : r.skips with
    | true => simp [flat_cons_skip hr]
    | false =>
      rw [flat_cons hr, List.forall_mem_append]
      exact ⟨branch_unconditional r hr, flat_unconditional rs⟩

end

mutual

private theorem checkAll_branch (c : Context) (v : Value) (r : Rule) (h : r.skips = false) :
    checkAll r.branch c v = r.check c v := by
  cases r with
  | skip active => rfl
  | choose condition rules otherwise =>
    cases condition with
    | true => exact checkAll_flat c v rules
    | false => exact checkAll_flat c v otherwise
  | leaf _ | custom _ _ | each _ _ | map _ _ =>
    rw [branch, checkAll_cons h]
    exact Run.andThen_ok _
  | wrapped rule =>
    rw [branch]
    split
    · exact checkAll_branch c v rule h
    · rw [checkAll_cons h]
      exact Run.andThen_ok _

/-- A list of rules does on every value what its flat list does. -/
theorem checkAll_flat (c : Context) (v : Value) (rules : List Rule) :
    checkAll (flat rules) c v = checkAll rules c v := by
  cases rules with
  | nil => rfl
  | cons r rs =>
    cases hr : r.skips with
    | true =>
      rw [flat_cons_skip hr, checkAll_cons_skip hr]
      rfl
    | false =>
      have hbranch : ∀ q ∈ r.branch, q.skips = false := fun q hq =>
        (branch_unconditional r hr q hq).2
      rw [flat_cons hr, checkAll_append hbranch, checkAll_branch c v r hr, checkAll_flat c v rs,
        checkAll_cons hr]

end

theorem isConditional_bare : ∀ r : Rule, r.bare.isConditional = r.isConditional
  | .leaf _ | .custom _ _ | .skip _ | .choose _ _ _ | .each _ _ | .map _ _ => rfl
  | .wrapped rule => isConditional_bare rule

theorem branch_of_not_conditional {r : Rule} (h : r.isConditional = false) : r.branch = [r] := by
  cases r with
  | skip active | choose condition rules otherwise => cases h
  | leaf _ | custom _ _ | each _ _ | map _ _ => rfl
  | wrapped rule => exact if_neg (Bool.eq_false_iff.mp h)

mutual

private theorem branch_bare (r : Rule) : r.bare.branch = bareList r.branch := by
  cases r with
  | leaf _ | custom _ _ | skip _ | each _ _ | map _ _ => rfl
  | choose condition rules otherwise =>
    cases condition with
    | true => exact flat_bareList rules
    | false => exact flat_bareList otherwise
  | wrapped rule =>
    rw [bare, branch]
    split
    · exact branch_bare rule
    next h =>
      have hbare : rule.bare.isConditional = false := by
        rw [isConditional_bare]
        exact Bool.eq_false_iff.mpr h
      exact branch_of_not_conditional hbare

/-- Wrappers may be taken off before a list is flattened or after that. -/
theorem flat_bareList (rules : List Rule) : flat (bareList rules) = bareList (flat rules) := by
  cases rules with
  | nil => rfl
  | cons r rs =>
    rw [bareList, flat, flat, skips_bare]
    split
    · rfl
    · rw [bareList_append, branch_bare r, flat_bareList rs]

end

theorem validate_of_skip (hs : s ∈ rules) (h : s.skips = true) :
    validate rules c v = checkAll rules c v := by
  have hany : rules.any skips = true := List.any_eq_true.mpr ⟨s, hs, h⟩
  simp only [validate, Check.afterSelf, hany, if_true]

theorem validate_of_no_skip (h : ∀ r ∈ rules, r.skips = false) :
    validate rules c v = (v.validateSelf c).andThen fun () => checkAll rules c v := by
  have hany : rules.any skips = false := List.any_eq_false.mpr fun r hr => by simp [h r hr]
  simp only [validate, Check.afterSelf, hany, Bool.false_eq_true, if_false]

/-- A list of rules runs its flat list in order. A value to be validated against it validates
itself first, unless a rule of the list itself skips; what follows such a rule is of no account.
A skip in a choice ends no more than the branch that it is in. Wrappers around the rules, or around
rules inside them, change nothing of this. -/
theorem validate_runs_flat (rules : List Rule) (c : Context) (v : Value) :
    (∀ r ∈ flat rules, r.isConditional = false ∧ r.skips = false) ∧
    RunsInTurn c v (flat rules) (checkAll rules c v) ∧
    ((∀ r ∈ rules, r.skips = false) →
      (∀ e, (v.validateSelf c).outcome = .error e → validate rules c v = v.validateSelf c) ∧
      ((v.validateSelf c).outcome = .ok () →
        validate rules c v = (checkAll rules c v).after (v.validateSelf c).events)) ∧
    (∀ before s after, rules = before ++ s :: after → s.skips = true →
      validate rules c v = checkAll rules c v ∧ checkAll rules c v = checkAll before c v ∧
      flat rules = flat before) ∧
    (∀ before r condition chosen otherwise after, rules = before ++ r :: after →
      r.core = .choose condition chosen otherwise → (∀ r ∈ before, r.skips = false) →
      flat rules = flat before ++ flat (if condition then chosen else otherwise) ++ flat after) ∧
    ∀ rewrapped, bareList rewrapped = bareList rules →
      bareList (flat rewrapped) = bareList (flat rules) ∧
      checkAll rewrapped c v = checkAll rules c v ∧ validate rewrapped c v = validate rules c v := by
  refine ⟨flat_unconditional rules, ?_, fun h => ⟨fun e he => ?_, fun ho => ?_⟩, ?_, ?_, ?_⟩
  · rw [← checkAll_flat]
    exact runsInTurn_checkAll fun r hr => (flat_unconditional rules r hr).2
  · rw [validate_of_no_skip h, Run.andThen_of_error _ he]
  · rw [validate_of_no_skip h, Run.andThen_of_ok _ ho]
  · rintro before s after rfl hs
    exact ⟨validate_of_skip List.mem_append_cons_self hs, checkAll_append_skip hs,
      flat_append_skip hs⟩
  · rintro before r condition chosen otherwise after rfl hr h
    exact flat_append_choose h hr after
  · intro rewrapped h
    refine ⟨?_, ?_, ?_⟩
    · rw [← flat_bareList, ← flat_bareList, h]
    · rw [← checkAll_bareList rewrapped, h, checkAll_bareList]
    · rw [← validate_bareList rewrapped, h, validate_bareList]

/-- The skip in the wrapped branch lets the struct fail by itself, as the check that ends the list
after it does not. -/
theorem validate_runs_flat_of_skip_in_branch :
    let branch : List Rule := [.leaf .required, .skip true, .leaf .nil]
    let rules : List Rule := [.wrapped (.choose true branch []), .leaf .notNil]
    let last : Rule := .wrapped (.custom (fun _ _ => .raise .notMap) true)
    let v : Value := .struct "S" [] (some fun _ => .fail (.violation (.plain "c" "m")))
    flat rules = [.leaf .required, .leaf .notNil] ∧
      (validate rules .background v).outcome = .error (.violation (.plain "c" "m")) ∧
      (validate (rules ++ [last, .leaf .nil]) .background v).outcome = .ok () ∧
      (validate [.choose true branch [], .wrapped (.leaf .notNil)] .background v).outcome =
        .error (.violation (.plain "c" "m")) := by
  intro branch rules last v
  obtain ⟨_, _, self, _, choice, wrappers⟩ := validate_runs_flat rules .background v
  obtain ⟨_, _, _, skip, _⟩ := validate_runs_flat (rules ++ [last, .leaf .nil]) .background v
  have hflat := choice [] (.wrapped (.choose true branch [])) true branch [] [.leaf .notNil]
    rfl rfl (by simp)
  have hself := (self (by simp [rules, Rule.skips])).1 _ rfl
  have hrewrapped := (wrappers [.choose true branch [], .wrapped (.leaf .notNil)] rfl).2.2
  obtain ⟨hskip, hbefore, _⟩ := skip rules last [.leaf .nil] rfl rfl
  refine ⟨hflat, ?_, ?_, ?_⟩
  · rw [hself]
    rfl
  · rw [hskip, hbefore]
    rfl
  · rw [hrewrapped, hself]
    rfl

end Rule
end Verdict
