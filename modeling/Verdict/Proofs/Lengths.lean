import Mathlib.Algebra.Order.Ring.Nat
import Verdict.Proofs.ByteOrder
import Verdict.Proofs.CompositionalRuns

/-! Lengths. A rule of lengths accepts the interval that its bounds describe, names what is wrong
with any other length, and counts the bytes or the scalars of text, which are as many just for
text in ASCII. -/
namespace Verdict

section Text

/-- Text in which every scalar is one of the first 128. -/
def InAscii (s : String) : Prop := ∀ ch ∈ s.toList, ch.toNat < 128

theorem utf8ByteSize_eq_sum (s : String) :
    s.utf8ByteSize = (s.toList.map Char.utf8Size).sum := by
  have hbytes : s.utf8ByteSize = (utf8 s).length := rfl
  rw [hbytes, utf8_eq_flatMap, List.length_flatMap]
  simp only [String.length_utf8EncodeChar]

theorem utf8Size_eq_one_iff_lt (ch : Char) : ch.utf8Size = 1 ↔ ch.toNat < 128 := by
  rw [Char.utf8Size_eq_one_iff, UInt32.le_iff_toNat_le]
  exact Nat.lt_succ_iff.symm

/-- A scalar takes at least one byte. -/
theorem length_le_sum_utf8Size (cs : List Char) : cs.length ≤ (cs.map Char.utf8Size).sum := by
  induction cs with
  | nil => simp
  | cons ch cs ih =>
    have hpos := ch.utf8Size_pos
    simp only [List.length_cons, List.map_cons, List.sum_cons]
    omega

theorem sum_utf8Size_eq_length_iff (cs : List Char) :
    (cs.map Char.utf8Size).sum = cs.length ↔ ∀ ch ∈ cs, ch.toNat < 128 := by
  induction cs with
  | nil => simp
  | cons ch cs ih =>
    have hpos := ch.utf8Size_pos
    have hle := length_le_sum_utf8Size cs
    rw [List.forall_mem_cons, ← ih, ← utf8Size_eq_one_iff_lt]
    simp only [List.length_cons, List.map_cons, List.sum_cons]
    omega

theorem length_le_utf8ByteSize (s : String) : s.length ≤ s.utf8ByteSize := by
  rw [utf8ByteSize_eq_sum]
  exact length_le_sum_utf8Size s.toList

/-- Text has as many bytes as scalars just in ASCII. -/
theorem utf8ByteSize_eq_length_iff (s : String) : s.utf8ByteSize = s.length ↔ InAscii s := by
  rw [utf8ByteSize_eq_sum]
  exact sum_utf8Size_eq_length_iff s.toList

end Text

namespace LengthUnit

/-- The length of a value in a unit: text has one in each of them, and bytes and collections have
as many elements in either. -/
inductive Measures : LengthUnit → Value → Nat → Prop
  | textBytes (s : String) : Measures .bytes (.text s) (utf8 s).length
  | textScalars (s : String) : Measures .scalars (.text s) s.toList.length
  | bytes (unit : LengthUnit) (bs : List UInt8) : Measures unit (.bytes bs) bs.length
  | list (unit : LengthUnit) (items : List Value) : Measures unit (.list items) items.length
  | map (unit : LengthUnit) (kind : KeyKind) (entries : List (MapKey × Value)) :
      Measures unit (.map kind entries) entries.length

variable {unit : LengthUnit} {v : Value} {n : Nat}

theorem measures_iff : unit.Measures v n ↔ unit.measure? v = some n := by
  constructor
  · intro h
    cases h with
    | textBytes | textScalars => rfl
    | bytes unit | list unit | map unit => cases unit <;> rfl
  · intro h
    cases v with
    | text s =>
      cases unit with
      | bytes =>
        obtain rfl := Option.some_inj.mp h
        exact .textBytes s
      | scalars =>
        obtain rfl := Option.some_inj.mp h
        exact .textScalars s
    | bytes bs =>
      obtain rfl : bs.length = n := by cases unit <;> exact Option.some_inj.mp h
      exact .bytes unit bs
    | list items =>
      obtain rfl : items.length = n := by cases unit <;> exact Option.some_inj.mp h
      exact .list unit items
    | map kind entries =>
      obtain rfl : entries.length = n := by cases unit <;> exact Option.some_inj.mp h
      exact .map unit kind entries
    | _ => cases unit <;> cases h

/-- Text, bytes and collections have a length, and no other value has. -/
theorem exists_measures_iff : (∃ n, unit.Measures v n) ↔ v.kind = .text ∨ v.kind = .collection := by
  constructor
  · rintro ⟨n, h⟩
    cases h with
    | textBytes | textScalars | bytes => exact .inl rfl
    | list | map => exact .inr rfl
  · intro h
    cases v with
    | text s =>
      cases unit with
      | bytes => exact ⟨_, .textBytes s⟩
      | scalars => exact ⟨_, .textScalars s⟩
    | bytes bs => exact ⟨_, .bytes unit bs⟩
    | list items => exact ⟨_, .list unit items⟩
    | map kind entries => exact ⟨_, .map unit kind entries⟩
    | _ => rcases h with h | h <;> cases h

theorem Measures.pos (h : unit.Measures v n) (he : v.isEmpty = false) : 0 < n := by
  cases h with
  | textBytes s =>
    have hs : s ≠ "" := by simpa [Value.isEmpty] using he
    exact Nat.pos_of_ne_zero fun h0 => hs (String.utf8ByteSize_eq_zero_iff.mp h0)
  | textScalars s =>
    have hs : s ≠ "" := by simpa [Value.isEmpty] using he
    exact Nat.pos_of_ne_zero fun h0 => hs (String.length_eq_zero_iff.mp h0)
  | bytes | list | map =>
    apply List.length_pos_of_ne_nil
    rintro rfl
    cases he

/-- The units measure alike what is not text beyond ASCII. -/
theorem measure?_eq_iff : LengthUnit.bytes.measure? v = LengthUnit.scalars.measure? v ↔
    ∀ s, v = .text s → InAscii s := by
  cases v with
  | text s =>
    change some s.utf8ByteSize = some s.length ↔ _
    rw [Option.some_inj, utf8ByteSize_eq_length_iff]
    simp
  | _ => exact iff_of_true rfl nofun

end LengthUnit

/-- What is wrong with a length, by the code that says so. A bound of zero is none. -/
inductive LengthFault (min max n : Nat) : String → Prop
  | emptyRequired (hmin : min = 0) (hmax : max = 0) (h : 0 < n) :
      LengthFault min max n "validation_length_empty_required"
  | tooLong (hmin : min = 0) (hmax : max ≠ 0) (h : max < n) :
      LengthFault min max n "validation_length_too_long"
  | tooShort (hmin : min ≠ 0) (hmax : max = 0) (h : n < min) :
      LengthFault min max n "validation_length_too_short"
  | inexact (hmin : min ≠ 0) (heq : min = max) (h : n ≠ min) :
      LengthFault min max n "validation_length_invalid"
  | outOfRange (hmin : min ≠ 0) (hmax : max ≠ 0) (hne : min ≠ max) (h : n < min ∨ max < n) :
      LengthFault min max n "validation_length_out_of_range"

namespace LeafTest
variable {min max : UInt64} {n : Nat}

theorem admitsLength_iff (hn : 0 < n) : admitsLength min max n = true ↔
    (min = 0 ∨ min.toNat ≤ n) ∧ (max = 0 ∨ n ≤ max.toNat) ∧ ¬ (min = 0 ∧ max = 0) := by
  simp only [admitsLength, Bool.and_eq_true, Bool.or_eq_true, beq_iff_eq, decide_eq_true_eq,
    Bool.not_eq_true', ← Bool.not_eq_true, hn, and_true, and_assoc]

/-- The bounds refuse a length just if something is wrong with it, and they tell what it is. -/
theorem lengthFault_iff (hn : 0 < n) {code : String} :
    LengthFault min.toNat max.toNat n code ↔
      ¬ admitsLength min max n = true ∧ (Leaf.lengthTemplate min max).code = code := by
  rw [admitsLength_iff hn]
  simp only [Leaf.lengthTemplate, Bool.and_eq_true, beq_iff_eq, ← UInt64.toNat_inj,
    UInt64.toNat_zero]
  generalize min.toNat = lo
  generalize max.toNat = hi
  constructor
  · intro h
    cases h with
    | emptyRequired hlo hhi h => exact ⟨by omega, by simp [hlo, hhi, Violation.plain]⟩
    | tooLong hlo hhi h => exact ⟨by omega, by simp [hlo, hhi, Violation.plain]⟩
    | tooShort hlo hhi h => exact ⟨by omega, by simp [hlo, hhi, Violation.plain]⟩
    | inexact hlo heq h => exact ⟨by omega, by simp [heq ▸ hlo, heq, Violation.plain]⟩
    | outOfRange hlo hhi hne h => exact ⟨by omega, by simp [hlo, hhi, hne, Violation.plain]⟩
  · rintro ⟨hout, rfl⟩
    split_ifs with hzero hlo hhi heq
    · exact .emptyRequired hzero.1 hzero.2 hn
    · exact .tooLong hlo (by omega) (by omega)
    · exact .tooShort hlo hhi (by omega)
    · exact .inexact hlo heq (by omega)
    · exact .outOfRange hlo hhi heq (by omega)

end LeafTest

namespace Leaf
variable {min max : UInt64} {unit : LengthUnit} {template : Violation} {v : Value} {n : Nat}

theorem length_of_measures (he : v.isEmpty = false) (hm : unit.Measures v n) (c : Context) :
    ((Rule.leaf ⟨.length min max unit, template⟩).check c v).outcome =
      if (min = 0 ∨ min.toNat ≤ n) ∧ (max = 0 ∨ n ≤ max.toNat) ∧ ¬ (min = 0 ∧ max = 0) then .ok ()
      else .error (.violation template) := by
  have hjudge : (LeafTest.length min max unit).judge v =
      .ofBool (LeafTest.admitsLength min max n) := by
    rw [LeafTest.judge, LeafTest.unlessEmpty_of_not_empty he, LeafTest.judgeLength,
      LengthUnit.measures_iff.mp hm]
  rw [Rule.check_leaf_outcome, hjudge,
    Judgement.outcome_ofBool (LeafTest.admitsLength_iff (hm.pos he))]

theorem length_of_not_measures (he : v.isEmpty = false) (hv : ∀ n, ¬ unit.Measures v n)
    (c : Context) :
    ((Rule.leaf ⟨.length min max unit, template⟩).check c v).outcome =
      .error (.violation (LeafTest.unmeasurable v)) := by
  have hnone : unit.measure? v = none :=
    Option.eq_none_iff_forall_ne_some.mpr fun n hn => hv n (LengthUnit.measures_iff.mpr hn)
  rw [Rule.check_leaf_outcome, LeafTest.judge, LeafTest.unlessEmpty_of_not_empty he,
    LeafTest.judgeLength, hnone]
  rfl

/-- Without overrides the error names both bounds. -/
theorem length_eq (min max : UInt64) (unit : LengthUnit) :
    length min max unit =
      ⟨.length min max unit, (lengthTemplate min max).code, (lengthTemplate min max).template,
        [("min", .number (.natural min)), ("max", .number (.natural max))]⟩ := by
  unfold length lengthTemplate
  split_ifs <;> rfl

theorem length_rejects_iff (he : v.isEmpty = false) (hm : unit.Measures v n) (c : Context)
    (code : String) :
    (∃ message, ((Rule.leaf (length min max unit)).check c v).outcome = .error (.violation
      ⟨code, message, [("min", .number (.natural min)), ("max", .number (.natural max))]⟩)) ↔
      LengthFault min.toNat max.toNat n code := by
  rw [LeafTest.lengthFault_iff (hm.pos he), LeafTest.admitsLength_iff (hm.pos he), length_eq,
    length_of_measures he hm]
  split <;> rename_i hin
  · refine iff_of_false ?_ fun h => h.1 hin
    rintro ⟨message, h⟩
    cases h
  · constructor
    · rintro ⟨message, h⟩
      cases h
      exact ⟨hin, rfl⟩
    · rintro ⟨_, rfl⟩
      exact ⟨_, rfl⟩

/-- Where both units measure alike, the rules of either answer alike. -/
theorem length_unit_congr (h : ∀ s, v = .text s → InAscii s) (c : Context) :
    ((Rule.leaf ⟨.length min max .bytes, template⟩).check c v).outcome =
      ((Rule.leaf ⟨.length min max .scalars, template⟩).check c v).outcome := by
  have hmeasure := LengthUnit.measure?_eq_iff.mpr h
  simp only [Rule.check_leaf_outcome, LeafTest.judge, LeafTest.judgeLength, hmeasure]

theorem length_of_empty (he : v.isEmpty = true) (c : Context) :
    ((Rule.leaf ⟨.length min max unit, template⟩).check c v).outcome = .ok () := by
  rw [Rule.check_leaf_outcome, LeafTest.judge, LeafTest.unlessEmpty_of_empty he]
  rfl

theorem length_accepts_text_iff {s : String} (hm : unit.Measures (.text s) n) (c : Context) :
    ((Rule.leaf (length min max unit)).check c (.text s)).outcome = .ok () ↔
      s = "" ∨
        (min = 0 ∨ min.toNat ≤ n) ∧ (max = 0 ∨ n ≤ max.toNat) ∧ ¬ (min = 0 ∧ max = 0) := by
  by_cases hs : s = ""
  · exact iff_of_true (length_of_empty (by rw [hs]; rfl) c) (.inl hs)
  · have he : (Value.text s).isEmpty = false := by simpa [Value.isEmpty] using hs
    rw [length_eq, length_of_measures he hm, or_iff_right hs, Judgement.ite_eq_ok_iff]

/-- Text that is short enough in bytes is so in scalars. -/
theorem length_scalars_of_bytes {s : String} {c : Context}
    (h : ((Rule.leaf (length 0 max .bytes)).check c (.text s)).outcome = .ok ()) :
    ((Rule.leaf (length 0 max .scalars)).check c (.text s)).outcome = .ok () := by
  rw [length_accepts_text_iff (.textBytes s)] at h
  rw [length_accepts_text_iff (.textScalars s)]
  refine h.imp_right ?_
  rintro ⟨_, hmax, hboth⟩
  exact ⟨.inl rfl, hmax.imp_right (length_le_utf8ByteSize s).trans, hboth⟩

/-- Text that is long enough in scalars is so in bytes. -/
theorem length_bytes_of_scalars {s : String} {c : Context}
    (h : ((Rule.leaf (length min 0 .scalars)).check c (.text s)).outcome = .ok ()) :
    ((Rule.leaf (length min 0 .bytes)).check c (.text s)).outcome = .ok () := by
  rw [length_accepts_text_iff (.textScalars s)] at h
  rw [length_accepts_text_iff (.textBytes s)]
  refine h.imp_right ?_
  rintro ⟨hmin, _, hboth⟩
  exact ⟨hmin.imp_right fun hn => hn.trans (length_le_utf8ByteSize s), .inl rfl, hboth⟩

/-- A rule of lengths passes empty values, and any other text, bytes or collection whose length
lies within its bounds, where a bound of zero is none, but two of them leave no length over. All
other values are reported as without length, and without overrides the error of a length says what
is wrong with it and names both bounds. Measured in bytes or scalars, values are answered alike
unless they are text beyond ASCII; text that is short enough in bytes is so in scalars, and text
that is long enough in scalars is so in bytes. -/
theorem length_keeps_interval (min max : UInt64) (v : Value) (c : Context) :
    (∀ (unit : LengthUnit) (template : Violation),
      let o := ((Rule.leaf ⟨.length min max unit, template⟩).check c v).outcome
      (v.isEmpty = true → o = .ok ()) ∧
      (v.isEmpty = false →
        (∀ n, unit.Measures v n →
          o = if (min = 0 ∨ min.toNat ≤ n) ∧ (max = 0 ∨ n ≤ max.toNat) ∧ ¬ (min = 0 ∧ max = 0)
            then .ok () else .error (.violation template)) ∧
        (¬ (v.kind = .text ∨ v.kind = .collection) →
          o = .error (.violation (LeafTest.unmeasurable v))))) ∧
    (LeafTest.unmeasurable v).code = "validation_length_unsupported" ∧
    (∀ unit : LengthUnit, (∃ n, unit.Measures v n) ↔ v.kind = .text ∨ v.kind = .collection) ∧
    (v.isEmpty = false → ∀ (unit : LengthUnit) (n : Nat), unit.Measures v n → ∀ code,
      (∃ message, ((Rule.leaf (length min max unit)).check c v).outcome = .error (.violation
        ⟨code, message, [("min", .number (.natural min)), ("max", .number (.natural max))]⟩)) ↔
        LengthFault min.toNat max.toNat n code) ∧
    ((∀ s, v = .text s → InAscii s) → ∀ template : Violation,
      ((Rule.leaf ⟨.length min max .bytes, template⟩).check c v).outcome =
        ((Rule.leaf ⟨.length min max .scalars, template⟩).check c v).outcome) ∧
    ∀ s, v = .text s →
      let accepts (l : Leaf) : Prop := ((Rule.leaf l).check c v).outcome = .ok ()
      (accepts (length 0 max .bytes) → accepts (length 0 max .scalars)) ∧
      (accepts (length min 0 .scalars) → accepts (length min 0 .bytes)) := by
  refine ⟨fun unit template => ⟨fun he => length_of_empty he c, fun he => ⟨?_, fun hk => ?_⟩⟩, rfl,
    fun unit => LengthUnit.exists_measures_iff, fun he unit n hm => length_rejects_iff he hm c,
    fun h template => length_unit_congr h c, ?_⟩
  · exact fun n hm => length_of_measures he hm c
  · exact length_of_not_measures he (fun n hm => hk (LengthUnit.exists_measures_iff.mp ⟨n, hm⟩)) c
  · rintro s rfl accepts
    exact ⟨length_scalars_of_bytes, length_bytes_of_scalars⟩

/-- Two scalars of three bytes each are too long for four bytes, but not for four scalars. -/
example :
    ((Rule.leaf (length 2 4 .bytes)).check .background (.text "中文")).outcome =
        .error (.violation (length 2 4 .bytes).template) ∧
      ((Rule.leaf (length 2 4 .scalars)).check .background (.text "中文")).outcome = .ok () :=
  ⟨rfl, rfl⟩

end Leaf
end Verdict
