import Verdict.Proofs.CollectedErrors
import Verdict.Proofs.FlatRules

/-! Empty values. The rules of length, thresholds, membership, dates and text pass all of them,
however they are configured. Those of patterns pass an empty value only if it is nothing, text
or bytes. -/
namespace Verdict

/-- A rule of length, thresholds, membership, patterns, dates or text, and whatever its
configuration makes of it. -/
inductive Leaf.Lenient : Leaf → Prop
  | length (min max : UInt64) (unit : LengthUnit) : Lenient (.length min max unit)
  | threshold (limit : Value) (bound : Bound) : Lenient (.threshold limit bound false)
  | isIn (elements : List Value) : Lenient (.isIn elements)
  | notIn (elements : List Value) : Lenient (.notIn elements)
  | matching (source : String) (pattern : Pattern) (template : Violation) :
      Lenient ⟨.matching source pattern, template⟩
  | date (layout : String) : Lenient (.date layout)
  | text (accepts : String → Bool) (template : Violation) : Lenient (.text accepts template)
  | exclusive {l : Leaf} (h : Lenient l) : Lenient l.exclusive
  | notBefore (m : Moment) {l : Leaf} (h : Lenient l) : Lenient (l.notBefore m)
  | notAfter (m : Moment) {l : Leaf} (h : Lenient l) : Lenient (l.notAfter m)
  | mapRangeError (change : Violation → Violation) {l : Leaf} (h : Lenient l) :
      Lenient (l.mapRangeError change)
  | withMessage (message : String) {l : Leaf} (h : Lenient l) : Lenient (l.withMessage message)
  | withTemplate (template : Violation) {l : Leaf} (h : Lenient l) :
      Lenient (l.withTemplate template)

namespace LeafTest

/-- The tests that leave it to others to refuse empty values. -/
def IgnoresEmpty : LeafTest → Prop
  | .presence _ _ | .notNil | .absence _ _ | .multipleOf _ => False
  | .length _ _ _ | .threshold _ _ _ | .membership _ _ | .matching _ _ | .date _ _ _ _
  | .text _ => True

/-- Patterns are looked for in text only, and nothing else than text is taken as empty then. -/
def TakesEmpty (t : LeafTest) (v : Value) : Prop :=
  ∀ source pattern, t = .matching source pattern → v.kind = .nil ∨ v.kind = .text

variable {v : Value}

theorem judge_matching_of_empty (hv : v.isEmpty = true) (source : String) (pattern : Pattern) :
    (LeafTest.matching source pattern).judge v =
      if v.kind = .nil ∨ v.kind = .text then .pass else .failure := by
  cases v with
  | nil => rfl
  | text s | bytes bs => simp [judge, unlessNil, Value.isNil, judgeMatching, Value.toText, hv,
      Judgement.ofBool, Value.kind]
  | _ => simp [judge, unlessNil, Value.isNil, judgeMatching, Value.toText, Value.kind]

/-- An empty value passes, or fails a test of patterns that it holds no text for. -/
theorem judge_of_empty (hv : v.isEmpty = true) {t : LeafTest} (ht : t.IgnoresEmpty) :
    (t.TakesEmpty v ∧ t.judge v = .pass) ∨ (¬ t.TakesEmpty v ∧ t.judge v = .failure) := by
  cases t with
  | matching source pattern =>
    rw [judge_matching_of_empty hv]
    have htakes : (LeafTest.matching source pattern).TakesEmpty v ↔
        v.kind = .nil ∨ v.kind = .text := by
      simp [TakesEmpty]
    rw [htakes]
    split
    · exact .inl ⟨‹_›, rfl⟩
    · exact .inr ⟨‹_›, rfl⟩
  | length | threshold | membership | date | text =>
    refine .inl ⟨?_, by rw [judge, unlessEmpty_of_empty hv]⟩
    intro source pattern h
    cases h
  | presence | notNil | absence | multipleOf => exact ht.elim

end LeafTest

namespace Leaf

/-- Configuration never makes a test one that refuses empty values. -/
theorem Lenient.ignoresEmpty {l : Leaf} (hl : l.Lenient) : l.test.IgnoresEmpty := by
  induction hl with
  | length | threshold | isIn | notIn | matching | date | text => trivial
  | exclusive _ ih =>
    rw [Leaf.exclusive]
    split
    · trivial
    · exact ih
  | notBefore _ _ ih =>
    rw [Leaf.notBefore]
    split
    · trivial
    · exact ih
  | notAfter _ _ ih =>
    rw [Leaf.notAfter]
    split
    · trivial
    · exact ih
  | mapRangeError _ _ ih =>
    rw [Leaf.mapRangeError]
    split
    · trivial
    · exact ih
  | withMessage _ _ ih => exact ih
  | withTemplate _ _ ih => exact ih

theorem lenient_of_matching? {source : String} {l : Leaf} (h : matching? source = some l) :
    l.Lenient := by
  obtain ⟨pattern, _, rfl⟩ := Option.map_eq_some_iff.mp h
  exact .matching source pattern _

theorem Lenient.outcome_of_empty {l : Leaf} (hl : l.Lenient) {v : Value} (hv : v.isEmpty = true) :
    (l.test.TakesEmpty v ∧ l.outcome v = .ok ()) ∨
      (¬ l.test.TakesEmpty v ∧ l.outcome v = .error (.violation l.template)) := by
  refine (LeafTest.judge_of_empty hv hl.ignoresEmpty).imp ?_ ?_
  · rintro ⟨ht, hj⟩
    exact ⟨ht, by rw [outcome, judge, hj]; rfl⟩
  · rintro ⟨ht, hj⟩
    exact ⟨ht, by rw [outcome, judge, hj]; rfl⟩

end Leaf

theorem Value.validateSelf_of_empty {v : Value} (hv : v.isEmpty = true) (c : Context) :
    v.validateSelf c = .ok := by
  cases v with
  | list items =>
    rw [List.isEmpty_iff.mp hv]
    rfl
  | map kind entries =>
    rw [List.isEmpty_iff.mp hv]
    rfl
  | struct name fields validator => cases hv
  | _ => rfl

theorem RunsInTurn.passes_iff {c : Context} {v : Value} {rules : List Rule} {run : Run}
    (h : RunsInTurn c v rules run) :
    run.outcome = .ok () ↔ ∀ r ∈ rules, (r.check c v).outcome = .ok () := by
  rcases h with ⟨hall, rfl⟩ | ⟨before, r, after, e, rfl, _, he, rfl⟩
  · exact iff_of_true rfl hall
  · refine iff_of_false nofun fun hall => ?_
    have hok := hall r (List.mem_append_right _ List.mem_cons_self)
    cases he.symm.trans hok

theorem Rule.validate_leaves_of_empty {v : Value} (hv : v.isEmpty = true) (leaves : List Leaf)
    (c : Context) : (Rule.validate (leaves.map .leaf) c v).outcome = .ok () ↔
      ∀ l ∈ leaves, l.outcome v = .ok () := by
  have hskips : ∀ r ∈ leaves.map Rule.leaf, r.skips = false := by
    rw [List.forall_mem_map]
    exact fun _ _ => rfl
  rw [validate_of_no_skip hskips, v.validateSelf_of_empty hv, Run.andThen_of_ok _ rfl,
    Run.after_outcome, (runsInTurn_checkAll hskips).passes_iff, List.forall_mem_map]
  rfl

/-- An empty value passes every rule of length, thresholds, membership, dates and text, and those
of patterns if it is nothing, text or bytes. Another empty value fails these with their own
error. Lists of such rules pass it when each of them does. -/
theorem empty_passes_iff {v : Value} (hv : v.isEmpty = true) (c : Context) :
    (∀ l : Leaf, l.Lenient →
      (((Rule.leaf l).check c v).outcome = .ok () ↔ l.test.TakesEmpty v) ∧
      (¬ l.test.TakesEmpty v →
        ((Rule.leaf l).check c v).outcome = .error (.violation l.template))) ∧
    ∀ leaves : List Leaf, (∀ l ∈ leaves, l.Lenient) →
      ((Rule.validate (leaves.map .leaf) c v).outcome = .ok () ↔
        ∀ l ∈ leaves, l.test.TakesEmpty v) := by
  have hpasses {l : Leaf} (hl : l.Lenient) : l.outcome v = .ok () ↔ l.test.TakesEmpty v := by
    rcases hl.outcome_of_empty hv with ⟨ht, ho⟩ | ⟨ht, ho⟩
    · exact iff_of_true ho ht
    · exact iff_of_false (by rw [ho]; nofun) ht
  constructor
  · intro l hl
    refine ⟨hpasses hl, fun hn => ?_⟩
    obtain ⟨ht, _⟩ | ⟨_, ho⟩ := hl.outcome_of_empty hv
    · exact absurd ht hn
    · exact ho
  · intro leaves hl
    rw [Rule.validate_leaves_of_empty hv]
    exact forall₂_congr fun l hm => hpasses (hl l hm)

/-- An unsigned zero passes a threshold of one that is kept out itself and has a message of its
own, but not a rule of patterns beside it, while empty bytes pass both. -/
theorem empty_passes_iff_of_zero :
    let zero : Value := .uint 0
    let none : Value := .bytes []
    let least : Leaf := (Leaf.threshold (.int 1) .least false).exclusive.withMessage "more, please"
    let blank : Leaf := ⟨.matching "" .empty, .plain "blank" "must be blank"⟩
    zero.isEmpty = true ∧ none.isEmpty = true ∧ least.Lenient ∧ blank.Lenient ∧
      (∀ l ∈ [least, blank], l.Lenient) ∧
      ((Rule.leaf least).check .background zero).outcome = .ok () ∧
      ((Rule.leaf blank).check .background zero).outcome = .error (.violation blank.template) ∧
      (Rule.validate ([least, blank].map .leaf) .background none).outcome = .ok () := by
  intro zero none least blank
  have hleast : least.Lenient := .withMessage _ (.exclusive (.threshold (.int 1) .least))
  have hblank : blank.Lenient := .matching "" .empty _
  have hboth : ∀ l ∈ [least, blank], l.Lenient := by
    intro l hl
    rcases List.mem_pair.mp hl with rfl | rfl
    · exact hleast
    · exact hblank
  obtain ⟨hzero, _⟩ := empty_passes_iff (v := zero) rfl .background
  obtain ⟨_, hnone⟩ := empty_passes_iff (v := none) rfl .background
  have hrefuses : ¬ blank.test.TakesEmpty zero := by
    intro h
    rcases h "" .empty rfl with h | h <;> cases h
  refine ⟨rfl, rfl, hleast, hblank, hboth, (hzero least hleast).1.mpr nofun,
    (hzero blank hblank).2 hrefuses, (hnone [least, blank] hboth).mpr ?_⟩
  exact fun _ _ _ _ _ => .inr rfl

/-- A zero number fails a rule of patterns, though it is empty. -/
theorem empty_number_fails_pattern :
    ∃ l, Leaf.matching? "^[0-9]+$" = some l ∧ l.Lenient ∧ (Value.int 0).isEmpty = true ∧
      ((Rule.leaf l).check .background (.int 0)).outcome ≠ .ok () := by
  have hreads : (Leaf.matching? "^[0-9]+$").isSome = true := by decide +kernel
  obtain ⟨l, hl⟩ := Option.isSome_iff_exists.mp hreads
  refine ⟨l, hl, Leaf.lenient_of_matching? hl, rfl, ?_⟩
  obtain ⟨pattern, _, rfl⟩ := Option.map_eq_some_iff.mp hl
  nofun

end Verdict
