import Verdict.Proofs.CollectedErrors
import Verdict.Proofs.Conversions
import Verdict.Rules.Rule

/-! Overriding the error of a leaf rule. What a rule finds of a value is settled by its test alone;
the configured error is answered for the rule's own failure and for nothing else, and the errors
that a test reports in its place are always the same. -/
namespace Verdict

/-- A change of the error that a leaf rule is configured with. -/
inductive Override where
  | message (text : String)
  | object (e : Violation)
  /-- An assignment, which may look at the present error. -/
  | assign (change : Violation → Violation)

/-- The error after a change. -/
def Override.revise : Override → Violation → Violation
  | .message text, v => v.withTemplate text
  | .object e, _ => e
  | .assign change, v => change v

namespace Leaf

def override (l : Leaf) : Override → Leaf
  | .message text => l.withMessage text
  | .object e => l.withTemplate e
  | .assign change => l.withTemplate (change l.template)

/-- The rule after a chain of changes. -/
def overridden (l : Leaf) (overrides : List Override) : Leaf := overrides.foldl override l

theorem override_eq (l : Leaf) (o : Override) : l.override o = ⟨l.test, o.revise l.template⟩ := by
  cases o <;> rfl

theorem overridden_test (l : Leaf) (overrides : List Override) :
    (l.overridden overrides).test = l.test := by
  induction overrides generalizing l with
  | nil => rfl
  | cons o os ih =>
    change ((l.override o).overridden os).test = l.test
    rw [ih, override_eq]

theorem overridden_concat (l : Leaf) (overrides : List Override) (o : Override) :
    l.overridden (overrides ++ [o]) = (l.overridden overrides).override o :=
  List.foldl_append

end Leaf

namespace LeafTest
open Value (Representation)

/-- The errors that a test reports of a value by itself. -/
inductive Reports (v : Value) : LeafTest → Error → Prop
  | unmeasurable {min max : UInt64} {unit : LengthUnit} (given : v.isEmpty = false)
      (measure : v.length? = none) : Reports v (.length min max unit) (.violation (unmeasurable v))
  | incomparable {limit : Value} {bound : Bound} {exclusive : Bool} {r : Representation}
      (given : v.isEmpty = false) (reading : limit.representation? = some r)
      (unreadable : ¬ r.Holds v) :
      Reports v (.threshold limit bound exclusive) (.violation (v.conversionViolation r.name))
  | noThreshold {limit : Value} {bound : Bound} {exclusive : Bool} (given : v.isEmpty = false)
      (reading : limit.representation? = none) : Reports v (.threshold limit bound exclusive)
        (.internal (.unsupportedType limit.typeName))
  | indivisible {base : Value} {i : Int} {r : Representation} (given : v.isNil = false)
      (integer : base.integer? = some i) (nonzero : i ≠ 0)
      (reading : base.representation? = some r) (unreadable : ¬ r.Holds v) :
      Reports v (.multipleOf base) (.violation (v.conversionViolation r.name))
  | zeroBase {base : Value} (given : v.isNil = false) (zero : base.integer? = some 0) :
      Reports v (.multipleOf base) (.internal .zeroBase)
  | noBase {base : Value} (given : v.isNil = false) (integer : base.integer? = none) :
      Reports v (.multipleOf base) (.internal (.unsupportedType base.typeName))
  | noDate {layout : String} {earliest latest : Option Moment} {rangeError : Violation}
      (given : v.isEmpty = false) (text : v.kind ≠ .text) :
      Reports v (.date layout earliest latest rangeError) (.violation Value.notStringViolation)
  | outOfRange {layout : String} {earliest latest : Option Moment} {rangeError : Violation}
      {s : String} {m : Moment} (given : v.isEmpty = false) (text : v.toText = .ok s)
      (date : Moment.read? layout s = some m)
      (outside : (∃ e ∈ earliest, m.compare e = .lt) ∨ ∃ l ∈ latest, m.compare l = .gt) :
      Reports v (.date layout earliest latest rangeError) (.violation rangeError)
  | noText {accepts : String → Bool} (given : v.isEmpty = false) (text : v.kind ≠ .text) :
      Reports v (.text accepts) (.violation Value.notStringViolation)

end LeafTest

namespace Judgement
variable {e : Error}

theorem ofBool_ne_other (accepted : Bool) : ofBool accepted ≠ .other e := by
  cases accepted <;> nofun

theorem ofConversion_eq_other_iff {α : Type} {condition : Prop} {failure : Violation}
    {x : Except Violation α} (hx : Value.Converts condition failure x) {judge : α → Bool} :
    (ofConversion x fun a => ofBool (judge a)) = .other e ↔
      ¬ condition ∧ e = .violation failure := by
  have hsome : (ofConversion x fun a => ofBool (judge a)) = .other e ↔
      ∃ w, x = .error w ∧ e = .violation w := by
    cases x with
    | ok a => simpa [ofConversion] using ofBool_ne_other _
    | error w => simp [ofConversion, violation, eq_comm]
  rw [hsome]
  simp only [hx.error_iff, and_assoc, exists_and_left, exists_eq_left]

end Judgement

namespace LeafTest
open Judgement
variable {v : Value} {e : Error} {j : Judgement}

theorem unlessEmpty_eq_other_iff :
    unlessEmpty v j = .other e ↔ v.isEmpty = false ∧ j = .other e := by
  rw [unlessEmpty]
  cases v.isEmpty <;> simp

theorem unlessNil_eq_other_iff : unlessNil v j = .other e ↔ v.isNil = false ∧ j = .other e := by
  rw [unlessNil]
  cases v.isNil <;> simp

theorem judgeLength_eq_other_iff {min max : UInt64} {unit : LengthUnit} :
    judgeLength min max unit v = .other e ↔
      v.length? = none ∧ e = .violation (unmeasurable v) := by
  have hmeasure : unit.measure? v = none ↔ v.length? = none := by
    cases unit with
    | bytes => rfl
    | scalars => cases v <;> simp [LengthUnit.measure?, Value.length?]
  rw [← hmeasure, judgeLength]
  cases unit.measure? v with
  | some n => simpa using ofBool_ne_other _
  | none => simp [violation, eq_comm]

theorem judgeThreshold_eq_other_iff {limit : Value} {admits : Ordering → Bool} :
    judgeThreshold limit admits v = .other e ↔
      (∃ r, limit.representation? = some r ∧ ¬ r.Holds v ∧
        e = .violation (v.conversionViolation r.name)) ∨
      (limit.representation? = none ∧ e = .internal (.unsupportedType limit.typeName)) := by
  cases limit with
  | int t =>
    simp [judgeThreshold, ofConversion_eq_other_iff v.convertsTo_int, Value.representation?]
  | uint t =>
    simp [judgeThreshold, ofConversion_eq_other_iff v.convertsTo_uint, Value.representation?]
  | float t =>
    simp [judgeThreshold, ofConversion_eq_other_iff v.convertsTo_float, Value.representation?]
  | foreign f =>
    simp only [judgeThreshold, Value.representation?]
    cases (Value.foreign f).moment? with
    | some t => simp [ofConversion_eq_other_iff v.convertsTo_datetime]
    | none => simp [unsupported, eq_comm]
  | _ => simp [judgeThreshold, Value.representation?, Value.moment?, unsupported, eq_comm]

theorem judgeMultiple_eq_other_iff {base : Value} : judgeMultiple base v = .other e ↔
    (∃ i r, base.integer? = some i ∧ i ≠ 0 ∧ base.representation? = some r ∧ ¬ r.Holds v ∧
      e = .violation (v.conversionViolation r.name)) ∨
    (base.integer? = some 0 ∧ e = .internal .zeroBase) ∨
    (base.integer? = none ∧ e = .internal (.unsupportedType base.typeName)) := by
  cases base with
  | int b =>
    have hzero : b.toInt = 0 ↔ b = 0 := by rw [← Int64.toInt_inj, Int64.toInt_zero]
    rw [judgeMultiple, Value.integer?, Value.representation?]
    by_cases hb : b = 0
    · simp [hb, eq_comm]
    · simp [hb, hzero, ofConversion_eq_other_iff v.convertsTo_int]
  | uint b =>
    have hzero : b.toNat = 0 ↔ b = 0 := by rw [← UInt64.toNat_inj, UInt64.toNat_zero]
    rw [judgeMultiple, Value.integer?, Value.representation?]
    by_cases hb : b = 0
    · simp [hb, eq_comm]
    · simp [hb, hzero, ofConversion_eq_other_iff v.convertsTo_uint]
  | _ => simp [judgeMultiple, Value.integer?, unsupported, eq_comm]

/-- A moment lies outside a window if it comes before its start or after its end. -/
private theorem outside_iff {earliest latest : Option Moment} {m : Moment} :
    ¬ (earliest.all (fun t => m.compare t != .lt) && latest.all fun t => m.compare t != .gt) ↔
      (∃ t ∈ earliest, m.compare t = .lt) ∨ ∃ t ∈ latest, m.compare t = .gt := by
  cases earliest <;> cases latest <;> simp [imp_iff_not_or]

theorem judgeDate_eq_other_iff {layout : String} {earliest latest : Option Moment}
    {rangeError : Violation} : judgeDate layout earliest latest rangeError v = .other e ↔
      (v.kind ≠ .text ∧ e = .violation Value.notStringViolation) ∨
      ∃ s m, v.toText = .ok s ∧ Moment.read? layout s = some m ∧
        ((∃ t ∈ earliest, m.compare t = .lt) ∨ ∃ t ∈ latest, m.compare t = .gt) ∧
        e = .violation rangeError := by
  rw [judgeDate]
  cases hs : v.toText with
  | error w =>
    obtain ⟨hkind, rfl⟩ := (v.converts_toText.error_iff w).mp hs
    simp [ofConversion, violation, hkind, eq_comm]
  | ok s =>
    have hkind : v.kind = .text := v.converts_toText.ok_iff.mp ⟨s, hs⟩
    simp only [ofConversion, hkind, ne_eq, not_true_eq_false, false_and, false_or,
      Except.ok.injEq, exists_and_left, exists_eq_left', ← outside_iff]
    cases Moment.read? layout s with
    | none => simp
    | some m =>
      simp only [Option.some.injEq, exists_eq_left']
      split <;> rename_i hin
      · simp [hin]
      · simp [hin, violation, eq_comm]

/-- A test reports an error by itself in just the cases that are listed. -/
theorem judge_eq_other_iff {t : LeafTest} : t.judge v = .other e ↔ t.Reports v e := by
  cases t with
  | presence applies nilPasses => exact iff_of_false (ofBool_ne_other _) nofun
  | notNil => exact iff_of_false (ofBool_ne_other _) nofun
  | absence applies emptyPasses => exact iff_of_false (ofBool_ne_other _) nofun
  | length min max unit =>
    rw [judge, unlessEmpty_eq_other_iff, judgeLength_eq_other_iff]
    constructor
    · rintro ⟨given, measure, rfl⟩
      exact .unmeasurable given measure
    · rintro ⟨given, measure⟩
      exact ⟨given, measure, rfl⟩
  | threshold limit bound exclusive =>
    rw [judge, unlessEmpty_eq_other_iff, judgeThreshold_eq_other_iff]
    constructor
    · rintro ⟨given, ⟨r, reading, unreadable, rfl⟩ | ⟨reading, rfl⟩⟩
      · exact .incomparable given reading unreadable
      · exact .noThreshold given reading
    · rintro (_ | ⟨given, reading, unreadable⟩ | ⟨given, reading⟩)
      · exact ⟨given, .inl ⟨_, reading, unreadable, rfl⟩⟩
      · exact ⟨given, .inr ⟨reading, rfl⟩⟩
  | multipleOf base =>
    rw [judge, unlessNil_eq_other_iff, judgeMultiple_eq_other_iff]
    constructor
    · rintro ⟨given, ⟨i, r, integer, nonzero, reading, unreadable, rfl⟩ | ⟨zero, rfl⟩ |
        ⟨integer, rfl⟩⟩
      · exact .indivisible given integer nonzero reading unreadable
      · exact .zeroBase given zero
      · exact .noBase given integer
    · intro h
      cases h with
      | indivisible given integer nonzero reading unreadable =>
        exact ⟨given, .inl ⟨_, _, integer, nonzero, reading, unreadable, rfl⟩⟩
      | zeroBase given zero => exact ⟨given, .inr (.inl ⟨zero, rfl⟩)⟩
      | noBase given integer => exact ⟨given, .inr (.inr ⟨integer, rfl⟩)⟩
  | membership elements negated =>
    refine iff_of_false (fun h => ?_) nofun
    exact ofBool_ne_other _ (unlessEmpty_eq_other_iff.mp h).2
  | matching source pattern =>
    refine iff_of_false (fun h => ?_) nofun
    have hmatch := (unlessNil_eq_other_iff.mp h).2
    rw [judgeMatching] at hmatch
    split at hmatch
    · exact ofBool_ne_other _ hmatch
    · cases hmatch
  | date layout earliest latest rangeError =>
    rw [judge, unlessEmpty_eq_other_iff, judgeDate_eq_other_iff]
    constructor
    · rintro ⟨given, ⟨text, rfl⟩ | ⟨s, m, text, date, outside, rfl⟩⟩
      · exact .noDate given text
      · exact .outOfRange given text date outside
    · intro h
      cases h with
      | noDate given text => exact ⟨given, .inl ⟨text, rfl⟩⟩
      | outOfRange given text date outside =>
        exact ⟨given, .inr ⟨_, _, text, date, outside, rfl⟩⟩
  | text accepts =>
    rw [judge, unlessEmpty_eq_other_iff, ofConversion_eq_other_iff v.converts_toText]
    constructor
    · rintro ⟨given, text, rfl⟩
      exact .noText given text
    · intro h
      cases h with
      | noText given text => exact ⟨given, text, rfl⟩

end LeafTest

/-- Judgements are told apart by the outcomes that they give under different errors. -/
theorem Judgement.eq_of_outcome_eq {j k : Judgement}
    (h : ∀ template, j.outcome template = k.outcome template) : j = k := by
  have hcode (a b : Violation) (e : Error) (ha : .violation a = e) (hb : .violation b = e) :
      a.code = b.code := by
    rw [← hb] at ha
    rw [Error.violation.inj ha]
  have hother (e : Error) (ha : ∀ template : Violation, .violation template = e) : False :=
    absurd (hcode (.plain "" "") (.plain "other" "") e (ha _) (ha _)) (by decide)
  cases j with
  | pass =>
    cases k with
    | pass => rfl
    | failure => cases h (.plain "" "")
    | other e => cases h (.plain "" "")
  | failure =>
    cases k with
    | pass => cases h (.plain "" "")
    | failure => rfl
    | other e => exact (hother e fun template => Except.error.inj (h template)).elim
  | other e =>
    cases k with
    | pass => cases h (.plain "" "")
    | failure => exact (hother e fun template => (Except.error.inj (h template)).symm).elim
    | other f => exact congrArg Judgement.other (Except.error.inj (h (.plain "" "")))

namespace LeafTest
variable {t : LeafTest} {v : Value}

/-- What the rules of a test answer for a value, given the error that any chain of changes leaves
them with. -/
def Answers (t : LeafTest) (v : Value) (answer : Violation → Outcome) : Prop :=
  ∀ (template : Violation) (overrides : List Override) (c : Context),
    let l := Leaf.overridden ⟨t, template⟩ overrides
    ((Rule.leaf l).check c v).outcome = answer l.template

theorem answers_outcome_iff {j : Judgement} :
    t.Answers v (fun template => j.outcome template) ↔ t.judge v = j := by
  constructor
  · intro h
    exact Judgement.eq_of_outcome_eq fun template => h template [] .background
  · rintro rfl template overrides c
    have htest : (Leaf.overridden ⟨t, template⟩ overrides).test = t := Leaf.overridden_test _ _
    change (Leaf.overridden ⟨t, template⟩ overrides).outcome v = _
    rw [Leaf.outcome, Leaf.judge, htest]

/-- Whether a value passes a test, fails it, or is reported otherwise does not depend on the error
that is configured. Rules of the test that differ in it, whatever chain of changes it went through,
all pass the value, or each answers its own error, or all answer the one that the test reports. A
new message leaves code and parameters, and a new error replaces everything. -/
theorem overrides_keep_verdict (t : LeafTest) (v : Value) :
    (t.judge v = .pass ↔ t.Answers v fun _ => .ok ()) ∧
    (t.judge v = .failure ↔ t.Answers v fun template => .error (.violation template)) ∧
    (∀ e, t.judge v = .other e ↔ t.Answers v fun _ => .error e) ∧
    (∀ e, t.judge v = .other e ↔ t.Reports v e) ∧
    ∀ (l : Leaf) (overrides : List Override),
      let present := (l.overridden overrides).template
      (l.overridden overrides).test = l.test ∧
      (∀ text, (l.overridden (overrides ++ [.message text])).template =
        ⟨present.code, text, present.params⟩) ∧
      (∀ e, (l.overridden (overrides ++ [.object e])).template = e) ∧
      ∀ change, (l.overridden (overrides ++ [.assign change])).template = change present := by
  refine ⟨answers_outcome_iff.symm, answers_outcome_iff.symm, fun e => answers_outcome_iff.symm,
    fun e => judge_eq_other_iff, fun l overrides => ?_⟩
  refine ⟨l.overridden_test overrides, fun text => ?_, fun e => ?_, fun change => ?_⟩
  · rw [Leaf.overridden_concat]
    rfl
  · rw [Leaf.overridden_concat]
    rfl
  · rw [Leaf.overridden_concat]
    rfl

/-- A number below a threshold is refused in the words of the rule, and a text in others. -/
example :
    let l := (Leaf.threshold (.int 3) .least false).overridden [.message "more, please"]
    l.outcome (.int 2) = .error (.violation
        ⟨"validation_min_greater_equal_than_required", "more, please",
          [("threshold", .number (.natural 3))]⟩) ∧
      l.outcome (.text "two") =
        .error (.violation ((Value.text "two").conversionViolation "int")) :=
  ⟨rfl, rfl⟩

end LeafTest
end Verdict
