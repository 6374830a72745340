import Verdict.Proofs.CompositionalRuns
import Verdict.Proofs.ErrorOverrides

/-! Multiples of an integer. The remainder of two words is zero just if the one divides the other
in the integers, and none is ever taken that a machine could not compute. -/
namespace Verdict

section Remainders

theorem signed_mod_beq_zero_iff {n b : Int64} : (n % b == 0) = true ↔ b.toInt ∣ n.toInt := by
  rw [beq_iff_eq, ← Int64.toInt_inj, Int64.toInt_mod, Int64.toInt_zero, Int.dvd_iff_tmod_eq_zero]

theorem unsigned_mod_beq_zero_iff {n b : UInt64} :
    (n % b == 0) = true ↔ (b.toNat : Int) ∣ n.toNat := by
  rw [beq_iff_eq, ← UInt64.toNat_inj, UInt64.toNat_mod, UInt64.toNat_zero,
    Int.natCast_dvd_natCast, Nat.dvd_iff_mod_eq_zero]

/-- The remainder of a signed division towards zero on a machine. It faults for a divisor of zero,
and where the quotient does not fit a word. -/
def signedRem? (n b : Int64) : Option Int64 :=
  let q := n.toInt.tdiv b.toInt
  if b = 0 ∨ ¬ (-2 ^ 63 ≤ q ∧ q < 2 ^ 63) then none else some (.ofInt (n.toInt.tmod b.toInt))

/-- The remainder beside a quotient that wraps around. Minus one leaves none, and nothing is
divided by it. -/
def wrappingRem? (n b : Int64) : Option Int64 := if b = -1 then some 0 else signedRem? n b

/-- The remainder of an unsigned division on a machine, which faults for a divisor of zero. -/
def unsignedRem? (n b : UInt64) : Option UInt64 :=
  if b = 0 then none else some (.ofNat (n.toNat % b.toNat))

/-- Minus one apart, a divisor leaves a quotient that fits a word. -/
theorem tdiv_fits {n b : Int64} (hzero : b ≠ 0) (hone : b ≠ -1) :
    -2 ^ 63 ≤ n.toInt.tdiv b.toInt ∧ n.toInt.tdiv b.toInt < 2 ^ 63 := by
  have hlo := n.le_toInt
  have hhi := n.toInt_lt
  have hb0 : b.toInt ≠ 0 := fun h => hzero (Int64.toInt_inj.mp h)
  have hb1 : b.toInt ≠ -1 := fun h => hone (Int64.toInt_inj.mp h)
  by_cases hb : b.toInt = 1
  · rw [hb, Int.tdiv_one]
    exact ⟨hlo, hhi⟩
  · have habs : (n.toInt.tdiv b.toInt).natAbs ≤ n.toInt.natAbs / 2 := by
      rw [Int.natAbs_tdiv]
      exact Nat.div_le_div_left (by omega) (by decide)
    omega

theorem wrappingRem?_eq {n b : Int64} (hb : b ≠ 0) : wrappingRem? n b = some (n % b) := by
  rw [wrappingRem?]
  split <;> rename_i hone
  · have hzero : n % b = 0 := by
      apply Int64.toInt_inj.mp
      rw [Int64.toInt_mod, hone]
      exact (Int.tmod_neg n.toInt 1).trans (Int.tmod_one n.toInt)
    rw [hzero]
  · have hfits := not_or.mpr ⟨hb, not_not.mpr (tdiv_fits (n := n) hb hone)⟩
    rw [signedRem?, if_neg hfits, ← Int64.toInt_mod, Int64.ofInt_toInt]

theorem unsignedRem?_eq {n b : UInt64} (hb : b ≠ 0) : unsignedRem? n b = some (n % b) := by
  rw [unsignedRem?, if_neg hb, ← UInt64.toNat_mod, UInt64.ofNat_toNat]

end Remainders

namespace LeafTest
variable {base v : Value} {b i : Int}

/-- The judgement on a multiple as a machine arrives at it; there is none if a division faults. -/
def machineMultiple? (base v : Value) : Option Judgement :=
  match base with
  | .int b =>
    if b == 0 then some (.other (.internal .zeroBase))
    else match v.toInt64 with
      | .ok n => (wrappingRem? n b).map fun r => .ofBool (r == 0)
      | .error w => some (.violation w)
  | .uint b =>
    if b == 0 then some (.other (.internal .zeroBase))
    else match v.toUInt64 with
      | .ok n => (unsignedRem? n b).map fun r => .ofBool (r == 0)
      | .error w => some (.violation w)
  | base => some (.unsupported base.typeName)

/-- No division faults. -/
theorem machineMultiple?_eq (base v : Value) :
    machineMultiple? base v = some (judgeMultiple base v) := by
  cases base with
  | int b =>
    by_cases hb : b = 0
    · simp [machineMultiple?, judgeMultiple, hb]
    · cases hv : v.toInt64 <;>
        simp [machineMultiple?, judgeMultiple, hb, hv, wrappingRem?_eq, Judgement.ofConversion]
  | uint b =>
    by_cases hb : b = 0
    · simp [machineMultiple?, judgeMultiple, hb]
    · cases hv : v.toUInt64 <;>
        simp [machineMultiple?, judgeMultiple, hb, hv, unsignedRem?_eq, Judgement.ofConversion]
  | _ => rfl

theorem judgeMultiple_of_reads (hb : base.integer? = some b) (hne : b ≠ 0)
    (hi : base.Reads v i) :
    ∃ divides : Bool, judgeMultiple base v = .ofBool divides ∧ (divides = true ↔ b ∣ i) := by
  cases base with
  | int k =>
    obtain rfl := Option.some_inj.mp hb
    obtain ⟨n, hn, rfl⟩ := hi.toInt64
    have hk : ¬ (k == 0) = true := fun h => hne (by rw [beq_iff_eq.mp h, Int64.toInt_zero])
    refine ⟨n % k == 0, ?_, signed_mod_beq_zero_iff⟩
    rw [judgeMultiple, if_neg hk, hn]
    rfl
  | uint k =>
    obtain rfl := Option.some_inj.mp hb
    obtain ⟨n, hn, rfl⟩ := hi.toUInt64
    have hk : ¬ (k == 0) = true := fun h => hne (by rw [beq_iff_eq.mp h, UInt64.toNat_zero]; rfl)
    refine ⟨n % k == 0, ?_, unsigned_mod_beq_zero_iff⟩
    rw [judgeMultiple, if_neg hk, hn]
    rfl
  | _ => cases hb

theorem judgeMultiple_of_not_reads (hb : base.integer? = some b) (hne : b ≠ 0)
    (hv : ∀ i, ¬ base.Reads v i) :
    judgeMultiple base v = .violation (v.conversionViolation base.typeName) := by
  obtain ⟨r, hr, hname, hholds⟩ := Value.exists_representation hb
  refine judgeMultiple_eq_other_iff.mpr (.inl ⟨b, r, hb, hne, hr, ?_, by rw [hname]⟩)
  rw [hholds]
  exact not_exists.mpr hv

end LeafTest

/-- A rule of multiples passes the value that is nothing. With a base of zero, or one that is no
integer, it answers all others by an internal error. With any other base it accepts the integers
within the range of the base's representation that the base divides, fails the rest of these with
its own error, and reports all that is left as not convertible. No division faults on the way. -/
theorem Leaf.multiple_decides_divisibility (base v : Value) (template : Violation) (c : Context) :
    let o := ((Rule.leaf ⟨.multipleOf base, template⟩).check c v).outcome
    (v = .nil → o = .ok ()) ∧
    (v ≠ .nil →
      (base.integer? = some 0 → o = .error (.internal .zeroBase)) ∧
      (base.integer? = none → o = .error (.internal (.unsupportedType base.typeName))) ∧
      ∀ b, base.integer? = some b → b ≠ 0 →
        (∀ i, base.Reads v i → o = if b ∣ i then .ok () else .error (.violation template)) ∧
        ((∀ i, ¬ base.Reads v i) →
          o = .error (.violation (v.conversionViolation base.typeName)))) ∧
    (v.conversionViolation base.typeName).code = "validation_conversion_invalid" ∧
    LeafTest.machineMultiple? base v = some (LeafTest.judgeMultiple base v) := by
  intro o
  refine ⟨?_, fun hnil => ?_, rfl, LeafTest.machineMultiple?_eq base v⟩
  · rintro rfl
    rfl
  · have hv : v.isNil = false := by
      cases v with
      | nil => exact absurd rfl hnil
      | _ => rfl
    have ho : o = (LeafTest.judgeMultiple base v).outcome template := by
      change ((LeafTest.multipleOf base).judge v).outcome template = _
      rw [LeafTest.judge, LeafTest.unlessNil_of_not_nil hv]
    refine ⟨fun hb => ?_, fun hb => ?_, fun b hb hne => ⟨fun i hi => ?_, fun hread => ?_⟩⟩
    · rw [ho, LeafTest.judgeMultiple_eq_other_iff.mpr (.inr (.inl ⟨hb, rfl⟩))]
      rfl
    · rw [ho, LeafTest.judgeMultiple_eq_other_iff.mpr (.inr (.inr ⟨hb, rfl⟩))]
      rfl
    · obtain ⟨divides, hjudge, hdivides⟩ := LeafTest.judgeMultiple_of_reads hb hne hi
      rw [ho, hjudge, Judgement.outcome_ofBool hdivides]
    · rw [ho, LeafTest.judgeMultiple_of_not_reads hb hne hread]
      rfl

/-- The least number is a multiple of minus one, though its quotient has no room, and numbers
beyond the signed range are told apart by an unsigned base. -/
example :
    LeafTest.judgeMultiple (.int (-1)) (.int Int64.minValue) = .pass ∧
      LeafTest.judgeMultiple (.uint 10) (.uint 18446744073709551610) = .pass ∧
      LeafTest.judgeMultiple (.uint 10) (.uint 18446744073709551615) = .failure :=
  ⟨rfl, rfl, rfl⟩

end Verdict
