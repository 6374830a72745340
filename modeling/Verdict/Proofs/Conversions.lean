import Mathlib.Algebra.Group.Int.Defs
import Verdict.Proofs.MapKeyForms
import Verdict.Values.Value

/-! Conversions of values. Each of them succeeds on the values that can be read in its
representation, and reports of all others the same: what they are and what they cannot be. -/
namespace Verdict
namespace Value
variable {v : Value}

/-- The number that an integer of either representation stands for. -/
def integer? : Value → Option Int
  | .int n => some n.toInt
  | .uint n => some n.toNat
  | _ => none

/-- What a value may be read as to be compared with another. -/
inductive Representation where
  | int | uint | float | datetime
deriving DecidableEq

namespace Representation

def name : Representation → String
  | .int => "int"
  | .uint => "uint"
  | .float => "float"
  | .datetime => "datetime"

/-- The values that can be read in a representation. -/
def Holds : Representation → Value → Prop
  | .int, v => ∃ n : Int64, v.integer? = some n.toInt
  | .uint, v => ∃ n : UInt64, v.integer? = some (n.toNat : Int)
  | .float, v => v.kind = .number
  | .datetime, v => v.moment?.isSome

end Representation

/-- The representation that a value has itself. -/
def representation? : Value → Option Representation
  | .int _ => some .int
  | .uint _ => some .uint
  | .float _ => some .float
  | v => if v.moment?.isSome then some .datetime else none

theorem toInt64_eq_ok_iff {n : Int64} : v.toInt64 = .ok n ↔ v.integer? = some n.toInt := by
  cases v with
  | int m => simp [toInt64, integer?, Int64.toInt_inj]
  | uint m =>
    have hfits : (uint m).toInt64 = .ok n ↔ MapKey.signed? m = some n := by
      rw [toInt64]
      cases MapKey.signed? m <;> simp
    rw [hfits, MapKey.signed?_eq_some_iff, integer?, Option.some_inj, eq_comm]
  | _ => simp [toInt64, integer?]

theorem toUInt64_eq_ok_iff {n : UInt64} :
    v.toUInt64 = .ok n ↔ v.integer? = some (n.toNat : Int) := by
  cases v with
  | int m =>
    have hfits : (int m).toUInt64 = .ok n ↔ MapKey.unsigned? m = some n := by
      rw [toUInt64]
      cases MapKey.unsigned? m <;> simp
    rw [hfits, MapKey.unsigned?_eq_some_iff, integer?, Option.some_inj]
  | uint m =>
    rw [toUInt64, integer?, Except.ok.injEq, Option.some_inj, Int.ofNat_inj, UInt64.toNat_inj]
  | _ => simp [toUInt64, integer?]

/-- A conversion that succeeds on a condition, and reports every failure alike. -/
structure Converts {α : Type} (condition : Prop) (failure : Violation) (x : Except Violation α) :
    Prop where
  ok_iff : (∃ a, x = .ok a) ↔ condition
  error_eq : ∀ w, x = .error w → w = failure

theorem Converts.error_iff {α : Type} {condition : Prop} {failure : Violation}
    {x : Except Violation α} (h : Converts condition failure x) (w : Violation) :
    x = .error w ↔ ¬ condition ∧ w = failure := by
  rw [← h.ok_iff]
  cases x with
  | ok a => simp
  | error u =>
    obtain rfl := h.error_eq u rfl
    simp [eq_comm]

/-- A conversion to a representation, which says of what cannot be read in it what it is. -/
abbrev ConvertsTo {α : Type} (r : Representation) (v : Value) (x : Except Violation α) : Prop :=
  Converts (r.Holds v) (v.conversionViolation r.name) x

theorem convertsTo_int (v : Value) : ConvertsTo .int v v.toInt64 := by
  refine ⟨exists_congr fun n => toInt64_eq_ok_iff, fun w h => ?_⟩
  rw [toInt64.eq_def] at h
  split at h
  · cases h
  · split at h <;> cases h
    rfl
  · cases h
    rfl

theorem convertsTo_uint (v : Value) : ConvertsTo .uint v v.toUInt64 := by
  refine ⟨exists_congr fun n => toUInt64_eq_ok_iff, fun w h => ?_⟩
  rw [toUInt64.eq_def] at h
  split at h
  · cases h
  · split at h <;> cases h
    rfl
  · cases h
    rfl

theorem convertsTo_float (v : Value) : ConvertsTo .float v v.toBinary64 := by
  cases v with
  | int _ | uint _ | float _ => exact ⟨by simp [toBinary64, Representation.Holds, kind], nofun⟩
  | _ =>
    refine ⟨by simp [toBinary64, Representation.Holds, kind], fun w h => ?_⟩
    cases h
    rfl

theorem convertsTo_datetime (v : Value) : ConvertsTo .datetime v v.toMoment := by
  rw [toMoment]
  cases hm : v.moment? with
  | some m => exact ⟨by simp [Representation.Holds, hm], nofun⟩
  | none =>
    refine ⟨by simp [Representation.Holds, hm], fun w h => ?_⟩
    cases h
    rfl

/-- The integers that the representation of an integer has room for. -/
def HasRoomFor : Value → Int → Prop
  | .int _, i => -2 ^ 63 ≤ i ∧ i < 2 ^ 63
  | .uint _, i => 0 ≤ i ∧ i < 2 ^ 64
  | _, _ => False

/-- Beside an integer, a value counts as the integer that it is itself, if the representation of
the first one has room for it. -/
def Reads (beside v : Value) (i : Int) : Prop := v.integer? = some i ∧ beside.HasRoomFor i

section Reads
variable {i : Int}

theorem Reads.toInt64 {t : Int64} (h : (int t).Reads v i) :
    ∃ n : Int64, v.toInt64 = .ok n ∧ n.toInt = i := by
  obtain ⟨hv, hlo, hhi⟩ := h
  have hn : (Int64.ofInt i).toInt = i := Int64.toInt_ofInt_of_le hlo hhi
  exact ⟨.ofInt i, toInt64_eq_ok_iff.mpr (by rw [hn, hv]), hn⟩

theorem Reads.toUInt64 {t : UInt64} (h : (uint t).Reads v i) :
    ∃ n : UInt64, v.toUInt64 = .ok n ∧ (n.toNat : Int) = i := by
  obtain ⟨hv, hlo, hhi⟩ := h
  have hn : ((UInt64.ofNat i.toNat).toNat : Int) = i := by
    rw [UInt64.toNat_ofNat_of_lt' (by change _ < 2 ^ 64; omega)]
    omega
  exact ⟨.ofNat i.toNat, toUInt64_eq_ok_iff.mpr (by rw [hn, hv]), hn⟩

/-- An integer has a representation, and what that holds is read beside it. -/
theorem exists_representation {limit : Value} {t : Int} (ht : limit.integer? = some t) :
    ∃ r, limit.representation? = some r ∧ r.name = limit.typeName ∧
      ∀ v, r.Holds v ↔ ∃ i, limit.Reads v i := by
  cases limit with
  | int _ =>
    refine ⟨.int, rfl, rfl, fun v => ⟨?_, ?_⟩⟩
    · rintro ⟨n, hn⟩
      exact ⟨n.toInt, hn, n.le_toInt, n.toInt_lt⟩
    · rintro ⟨i, hi⟩
      obtain ⟨n, hn, _⟩ := hi.toInt64
      exact ⟨n, toInt64_eq_ok_iff.mp hn⟩
  | uint _ =>
    refine ⟨.uint, rfl, rfl, fun v => ⟨?_, ?_⟩⟩
    · rintro ⟨n, hn⟩
      have hlt := n.toNat_lt
      exact ⟨n.toNat, hn, by omega, by omega⟩
    · rintro ⟨i, hi⟩
      obtain ⟨n, hn, _⟩ := hi.toUInt64
      exact ⟨n, toUInt64_eq_ok_iff.mp hn⟩
  | _ => cases ht

end Reads

theorem converts_toText (v : Value) : Converts (v.kind = .text) notStringViolation v.toText := by
  cases v with
  | text s | bytes bs => exact ⟨by simp [toText, kind], nofun⟩
  | _ =>
    refine ⟨by simp [toText, kind], fun w h => ?_⟩
    cases h
    rfl

end Value
end Verdict
