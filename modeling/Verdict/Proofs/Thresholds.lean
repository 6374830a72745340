import Verdict.Proofs.CompositionalRuns
import Verdict.Proofs.ErrorOverrides

/-! Thresholds that are integers. Beside such a threshold a value counts as the integer that it
is, whichever representation it has, and is compared as a number. -/
namespace Verdict

namespace Bound

/-- The numbers that a bound keeps in, with or without the threshold itself. -/
def Keeps : Bound → Bool → Int → Int → Prop
  | .least, false, t, i => t ≤ i
  | .least, true, t, i => t < i
  | .greatest, false, t, i => i ≤ t
  | .greatest, true, t, i => i < t

instance : (bound : Bound) → (exclusive : Bool) → (t i : Int) →
    Decidable (bound.Keeps exclusive t i)
  | .least, false, t, i => inferInstanceAs (Decidable (t ≤ i))
  | .least, true, t, i => inferInstanceAs (Decidable (t < i))
  | .greatest, false, t, i => inferInstanceAs (Decidable (i ≤ t))
  | .greatest, true, t, i => inferInstanceAs (Decidable (i < t))

variable {exclusive : Bool} {t i : Int}

theorem admits_compare_iff (bound : Bound) :
    bound.admits exclusive (compare i t) = true ↔ bound.Keeps exclusive t i := by
  cases bound with
  | least =>
    cases exclusive with
    | false => simpa [admits, Keeps] using Int.compare_ne_lt
    | true => simpa [admits, Keeps] using Int.compare_eq_gt
  | greatest =>
    cases exclusive with
    | false => simpa [admits, Keeps] using Int.compare_ne_gt
    | true => simpa [admits, Keeps] using Int.compare_eq_lt

end Bound

theorem compare_natCast (m n : Nat) : compare (m : Int) (n : Int) = compare m n := by
  simp only [compare, compareOfLessAndEq, Int.ofNat_lt, Int.ofNat_inj]

namespace LeafTest
variable {limit v : Value} {t i : Int} {admits : Ordering → Bool}

theorem judgeThreshold_of_reads (ht : limit.integer? = some t) (hi : limit.Reads v i) :
    judgeThreshold limit admits v = .ofBool (admits (compare i t)) := by
  cases limit with
  | int n =>
    obtain rfl := Option.some_inj.mp ht
    obtain ⟨m, hm, rfl⟩ := hi.toInt64
    rw [judgeThreshold, hm]
    rfl
  | uint n =>
    obtain rfl := Option.some_inj.mp ht
    obtain ⟨m, hm, rfl⟩ := hi.toUInt64
    rw [judgeThreshold, hm, compare_natCast]
    rfl
  | _ => cases ht

theorem judgeThreshold_of_not_reads (ht : limit.integer? = some t)
    (hv : ∀ i, ¬ limit.Reads v i) :
    judgeThreshold limit admits v = .violation (v.conversionViolation limit.typeName) := by
  obtain ⟨r, hr, hname, hholds⟩ := Value.exists_representation ht
  refine judgeThreshold_eq_other_iff.mpr (.inl ⟨r, hr, ?_, by rw [hname]⟩)
  rw [hholds]
  exact not_exists.mpr hv

end LeafTest

namespace Leaf
variable {limit v : Value} {t : Int} {bound : Bound} {exclusive : Bool} {template : Violation}

theorem threshold_of_empty (he : v.isEmpty = true) (c : Context) :
    ((Rule.leaf ⟨.threshold limit bound exclusive, template⟩).check c v).outcome = .ok () := by
  rw [Rule.check_leaf_outcome, LeafTest.judge, LeafTest.unlessEmpty_of_empty he]
  rfl

theorem threshold_of_reads (ht : limit.integer? = some t) (he : v.isEmpty = false) {i : Int}
    (hi : limit.Reads v i) (c : Context) :
    ((Rule.leaf ⟨.threshold limit bound exclusive, template⟩).check c v).outcome =
      if bound.Keeps exclusive t i then .ok () else .error (.violation template) := by
  have hjudge : (LeafTest.threshold limit bound exclusive).judge v =
      .ofBool (bound.admits exclusive (compare i t)) := by
    rw [LeafTest.judge, LeafTest.unlessEmpty_of_not_empty he,
      LeafTest.judgeThreshold_of_reads ht hi]
  rw [Rule.check_leaf_outcome, hjudge, Judgement.outcome_ofBool bound.admits_compare_iff]

theorem threshold_accepts_iff (ht : limit.integer? = some t) (he : v.isEmpty = false) {i : Int}
    (hi : limit.Reads v i) (c : Context) :
    ((Rule.leaf ⟨.threshold limit bound exclusive, template⟩).check c v).outcome = .ok () ↔
      bound.Keeps exclusive t i := by
  rw [threshold_of_reads ht he hi, Judgement.ite_eq_ok_iff]

theorem threshold_of_not_reads (ht : limit.integer? = some t) (he : v.isEmpty = false)
    (hv : ∀ i, ¬ limit.Reads v i) (c : Context) :
    ((Rule.leaf ⟨.threshold limit bound exclusive, template⟩).check c v).outcome =
      .error (.violation (v.conversionViolation limit.typeName)) := by
  rw [Rule.check_leaf_outcome, LeafTest.judge, LeafTest.unlessEmpty_of_not_empty he,
    LeafTest.judgeThreshold_of_not_reads ht hv]
  rfl

theorem threshold_not_internal (ht : limit.integer? = some t) (c : Context) :
    ((Rule.leaf ⟨.threshold limit bound exclusive, template⟩).check c v).outcome.isInternal =
      false := by
  cases he : v.isEmpty with
  | true => rw [threshold_of_empty he]; rfl
  | false =>
    by_cases hv : ∃ i, limit.Reads v i
    · obtain ⟨i, hi⟩ := hv
      rw [threshold_of_reads ht he hi]
      split <;> rfl
    · rw [threshold_of_not_reads ht he (not_exists.mp hv)]
      rfl

/-- A threshold that is an integer passes every empty value. Any other value that is an integer
within the range of the threshold's representation is compared with it as a number, and reported
by the rule's own error if it lies on the wrong side; all the rest are reported as not convertible,
and none by an internal error. So a strict bound of one kind and an inclusive one of the other
accept opposite numbers, and two inclusive ones accept together what lies between them. -/
theorem integer_threshold_keeps (ht : limit.integer? = some t) (v : Value) (c : Context) :
    (∀ (bound : Bound) (exclusive : Bool) (template : Violation),
      let o := ((Rule.leaf ⟨.threshold limit bound exclusive, template⟩).check c v).outcome
      (v.isEmpty = true → o = .ok ()) ∧
      (v.isEmpty = false →
        (∀ i, limit.Reads v i →
          o = if bound.Keeps exclusive t i then .ok () else .error (.violation template)) ∧
        ((∀ i, ¬ limit.Reads v i) →
          o = .error (.violation (v.conversionViolation limit.typeName)))) ∧
      o.isInternal = false) ∧
    (v.conversionViolation limit.typeName).code = "validation_conversion_invalid" ∧
    ∀ i, v.isEmpty = false → limit.Reads v i →
      let accepts (l : Leaf) : Prop := ((Rule.leaf l).check c v).outcome = .ok ()
      (accepts (threshold limit .least false).exclusive ↔
        ¬ accepts (threshold limit .greatest false)) ∧
      (accepts (threshold limit .greatest false).exclusive ↔
        ¬ accepts (threshold limit .least false)) ∧
      ∀ (last : Value) (u : Int), last.integer? = some u → last.HasRoomFor i →
        (accepts (threshold limit .least false) ∧ accepts (threshold last .greatest false) ↔
          t ≤ i ∧ i ≤ u) := by
  refine ⟨fun bound exclusive template => ?_, rfl, fun i he hi => ?_⟩
  · refine ⟨fun he => threshold_of_empty he c, fun he => ⟨fun i hi => ?_, fun hv => ?_⟩,
      threshold_not_internal ht c⟩
    · exact threshold_of_reads ht he hi c
    · exact threshold_of_not_reads ht he hv c
  · intro accepts
    have hstrict (bound : Bound) :
        accepts (threshold limit bound false).exclusive ↔ bound.Keeps true t i :=
      threshold_accepts_iff ht he hi c
    have hinclusive (bound : Bound) :
        accepts (threshold limit bound false) ↔ bound.Keeps false t i :=
      threshold_accepts_iff ht he hi c
    refine ⟨?_, ?_, fun last u hu hlast => ?_⟩
    · rw [hstrict, hinclusive, Bound.Keeps, Bound.Keeps]
      omega
    · rw [hstrict, hinclusive, Bound.Keeps, Bound.Keeps]
      omega
    · exact and_congr (hinclusive .least) (threshold_accepts_iff hu he ⟨hi.1, hlast⟩ c)

/-- Beyond the signed range a strict bound still tells numbers apart, two thresholds enclose the
numbers between them, and a negative number is not convertible. -/
theorem integer_threshold_keeps_of_large :
    let limit : Value := .uint 9223372036854775808
    let most : Value := .uint 18446744073709551615
    let outcome (l : Leaf) (v : Value) := ((Rule.leaf l).check .background v).outcome
    limit.integer? = some 9223372036854775808 ∧
      outcome (threshold limit .least false).exclusive limit =
        .error (.violation (thresholdTemplate limit .least true)) ∧
      outcome (threshold limit .greatest false) limit = .ok () ∧
      outcome (threshold limit .least false) (.int (-1)) =
        .error (.violation ((Value.int (-1)).conversionViolation "uint")) ∧
      (outcome (threshold limit .least false) most = .ok () ∧
        outcome (threshold most .greatest false) most = .ok ()) := by
  intro limit most outcome
  have hl : limit.integer? = some 9223372036854775808 := by decide
  have hm : most.integer? = some 18446744073709551615 := by decide
  have hroom : limit.Reads limit 9223372036854775808 := ⟨hl, by decide, by decide⟩
  have hread : limit.Reads most 18446744073709551615 := ⟨hm, by decide, by decide⟩
  have hnegative (i : Int) : ¬ limit.Reads (.int (-1)) i := by
    rintro ⟨hi, hlo, _⟩
    obtain rfl := Option.some_inj.mp hi
    exact absurd hlo (by decide)
  obtain ⟨hrules, _, _⟩ := integer_threshold_keeps hl limit .background
  obtain ⟨hrules', _, _⟩ := integer_threshold_keeps hl (.int (-1)) .background
  obtain ⟨_, _, hbetween⟩ := integer_threshold_keeps hl most .background
  have hstrict := ((hrules .least true (thresholdTemplate limit .least true)).2.1 rfl).1 _ hroom
  have hinclusive := hrules .greatest false (thresholdTemplate limit .greatest false)
  refine ⟨hl, hstrict, (hinclusive.2.1 rfl).1 _ hroom, ?_, ?_⟩
  · exact ((hrules' .least false _).2.1 rfl).2 hnegative
  · exact ((hbetween _ rfl hread).2.2 most _ hm hread.2).mpr (by decide)

end Leaf
end Verdict
