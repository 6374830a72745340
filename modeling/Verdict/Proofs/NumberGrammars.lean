import Verdict.Formats.Format
import Verdict.Patterns.PatternMeaning
import Verdict.Proofs.Lengths
import Verdict.Proofs.PatternLanguage

/-! The grammars of telephone and social security numbers. Both formats take the digits of every
script, so among their numbers the text in ASCII is just what the grammars with ASCII digits
spell. -/
namespace Verdict

/-- So many characters, all of them digits. -/
structure Digits (digit : Char → Bool) (n : Nat) (w : List Char) : Prop where
  length : w.length = n
  all : ∀ c ∈ w, digit c = true

namespace Digits
variable {digit : Char → Bool} {n : Nat} {w : List Char}

theorem zero_iff : Digits digit 0 w ↔ w = [] := by
  refine ⟨fun h => List.length_eq_zero_iff.mp h.length, ?_⟩
  rintro rfl
  exact ⟨rfl, by simp⟩

theorem succ_iff : Digits digit (n + 1) w ↔
    ∃ c v, digit c = true ∧ Digits digit n v ∧ w = c :: v := by
  constructor
  · intro h
    obtain ⟨c, v, rfl⟩ := List.exists_cons_of_length_eq_add_one h.length
    obtain ⟨hc, hv⟩ := List.forall_mem_cons.mp h.all
    exact ⟨c, v, hc, ⟨Nat.succ.inj h.length, hv⟩, rfl⟩
  · rintro ⟨c, v, hc, hv, rfl⟩
    exact ⟨congrArg Nat.succ hv.length, List.forall_mem_cons.mpr ⟨hc, hv.all⟩⟩

end Digits

theorem ScalarSet.isDigit_iff_decimalDigit {c : Char} :
    c.isDigit = true ↔ decimalDigit.contains c = true ∧ c.toNat < 128 := by
  have hcontains : decimalDigit.contains c = true ↔ 0x30 ≤ c.toNat ∧ (c.toNat < 0x3a ∨
      contains ⟨decimalDigit.boundaries.drop 2⟩ c = true) :=
    contains_range_iff
  have hothers : contains ⟨decimalDigit.boundaries.drop 2⟩ c = true → 0x660 ≤ c.toNat :=
    fun h => (contains_range_iff.mp h).1
  have hdigit : c.isDigit = true ↔ 0x30 ≤ c.toNat ∧ c.toNat ≤ 0x39 := Char.isDigit_iff_toNat
  rw [hcontains, hdigit]
  constructor
  · rintro ⟨hlo, hhi⟩
    exact ⟨⟨hlo, .inl (by omega)⟩, by omega⟩
  · rintro ⟨⟨hlo, hhi⟩, hascii⟩
    refine ⟨hlo, ?_⟩
    rcases hhi with hhi | hother
    · omega
    · have hfar := hothers hother
      omega

/-- Digits of ASCII are the digits that are in ASCII. -/
theorem Digits.isDigit_iff {n : Nat} {w : List Char} : Digits Char.isDigit n w ↔
    Digits ScalarSet.decimalDigit.contains n w ∧ ∀ c ∈ w, c.toNat < 128 := by
  constructor
  · intro h
    have hall (c : Char) (hc : c ∈ w) := ScalarSet.isDigit_iff_decimalDigit.mp (h.all c hc)
    exact ⟨⟨h.length, fun c hc => (hall c hc).1⟩, fun c hc => (hall c hc).2⟩
  · rintro ⟨h, hascii⟩
    exact ⟨h.length, fun c hc =>
      ScalarSet.isDigit_iff_decimalDigit.mpr ⟨h.all c hc, hascii c hc⟩⟩

namespace PhoneNumber
variable {c : Char} {s : List Char}

/-- A plus sign, a digit from 1 to 9, and one to fourteen more digits. -/
inductive Written (digit : Char → Bool) : List Char → Prop
  | intro {first : Char} {rest : List Char} {n : Nat} (hfirst : first.isDigit = true)
      (hzero : first ≠ '0') (hleast : 1 ≤ n) (hmost : n ≤ 14) (hrest : Digits digit n rest) :
      Written digit ('+' :: first :: rest)

theorem isDigit_and_ne_zero_iff : c.isDigit = true ∧ c ≠ '0' ↔ 0x31 ≤ c.toNat ∧ c.toNat ≤ 0x39 := by
  have hdigit : c.isDigit = true ↔ 0x30 ≤ c.toNat ∧ c.toNat ≤ 0x39 := Char.isDigit_iff_toNat
  have hzero : c = '0' ↔ c.toNat = 0x30 := Char.toNat_inj.symm
  rw [hdigit, Ne, hzero]
  omega

theorem isE164_iff (s : List Char) :
    isE164 s = true ↔ Written ScalarSet.decimalDigit.contains s := by
  fun_cases isE164 s with
  | case1 first rest =>
    simp only [Bool.and_eq_true, decide_eq_true_eq, List.all_eq_true]
    constructor
    · rintro ⟨⟨⟨⟨hone, hnine⟩, hall⟩, hleast⟩, hmost⟩
      obtain ⟨hfirst, hzero⟩ := isDigit_and_ne_zero_iff.mpr ⟨hone, hnine⟩
      exact .intro hfirst hzero hleast hmost ⟨rfl, hall⟩
    · rintro ⟨hfirst, hzero, hleast, hmost, rfl, hall⟩
      obtain ⟨hone, hnine⟩ := isDigit_and_ne_zero_iff.mp ⟨hfirst, hzero⟩
      exact ⟨⟨⟨⟨hone, hnine⟩, hall⟩, hleast⟩, hmost⟩
  | case2 s hother =>
    refine iff_of_false Bool.false_ne_true ?_
    rintro ⟨⟩
    exact hother _ _ rfl

theorem written_isDigit_iff : Written Char.isDigit s ↔
    Written ScalarSet.decimalDigit.contains s ∧ ∀ c ∈ s, c.toNat < 128 := by
  constructor
  · rintro ⟨hfirst, hzero, hleast, hmost, hrest⟩
    obtain ⟨hrest, hascii⟩ := Digits.isDigit_iff.mp hrest
    refine ⟨.intro hfirst hzero hleast hmost hrest, ?_⟩
    rw [List.forall_mem_cons, List.forall_mem_cons]
    exact ⟨by decide, (ScalarSet.isDigit_iff_decimalDigit.mp hfirst).2, hascii⟩
  · rintro ⟨⟨hfirst, hzero, hleast, hmost, hrest⟩, hascii⟩
    rw [List.forall_mem_cons, List.forall_mem_cons] at hascii
    exact .intro hfirst hzero hleast hmost (Digits.isDigit_iff.mpr ⟨hrest, hascii.2.2⟩)

section Pattern
open Pattern

/-- Telephone numbers as a pattern. -/
def pattern : String := "^\\+[1-9]\\d\x7b1,14\x7d$"

theorem read?_pattern : Pattern.read? pattern = some (whole [.one ⟨[0x2b, 0x2c]⟩,
    .one ⟨[0x31, 0x3a]⟩, .repeated (.one ScalarSet.decimalDigit) 1 (some 14)]) := by
  decide +kernel

/-- The pattern matches just the numbers. -/
theorem pattern_matches_iff (s : String) : ∃ p, Pattern.read? pattern = some p ∧
    (p.matchesIn s = true ↔ Written ScalarSet.decimalDigit.contains s.toList) := by
  refine ⟨_, read?_pattern, ?_⟩
  rw [matchesIn_whole_iff (by decide)]
  simp only [List.map_cons, List.map_nil, List.prod_cons, List.prod_nil, mul_one, Language.mem_mul,
    mem_repeated_one_iff (show 1 ≤ 14 by decide)]
  have hplus {c : Char} : ScalarSet.contains ⟨[0x2b, 0x2c]⟩ c = true ↔ c = '+' := by
    rw [← Char.toNat_inj, ScalarSet.contains_range_iff, ScalarSet.contains_nil_iff, or_false]
    change 0x2b ≤ c.toNat ∧ c.toNat < 0x2c ↔ c.toNat = 0x2b
    omega
  have hfirst {c : Char} : ScalarSet.contains ⟨[0x31, 0x3a]⟩ c = true ↔
      c.isDigit = true ∧ c ≠ '0' := by
    rw [isDigit_and_ne_zero_iff, ScalarSet.contains_range_iff, ScalarSet.contains_nil_iff,
      or_false, Nat.lt_succ_iff]
  constructor
  · rintro ⟨_, ⟨plus, hplus', rfl⟩, _, ⟨_, ⟨first, hfirst', rfl⟩, rest, hrest, rfl⟩, hs⟩
    obtain rfl := hplus.mp hplus'
    obtain ⟨hdigit, hzero⟩ := hfirst.mp hfirst'
    obtain ⟨hleast, hmost, hall⟩ := hrest
    rw [← hs]
    exact .intro hdigit hzero hleast hmost ⟨rfl, hall⟩
  · intro h
    generalize s.toList = t at h ⊢
    obtain ⟨hdigit, hzero, hleast, hmost, rfl, hall⟩ := h
    exact ⟨_, ⟨_, hplus.mpr rfl, rfl⟩, _, ⟨_, ⟨_, hfirst.mpr ⟨hdigit, hzero⟩, rfl⟩, _,
      ⟨hleast, hmost, hall⟩, rfl⟩, rfl⟩

end Pattern
end PhoneNumber

namespace SocialSecurityNumber
variable {n : Nat} {s r w gap : List Char}

/-- What may stand between two groups of digits. -/
def gaps : List (List Char) := [[], [' '], ['-']]

/-- Three, two and four digits with a gap after the first three and after the next two. -/
inductive Written (digit : Char → Bool) : List Char → Prop
  | intro {area gap group gap' serial : List Char} (harea : Digits digit 3 area)
      (hgap : gap ∈ gaps) (hgroup : Digits digit 2 group) (hgap' : gap' ∈ gaps)
      (hserial : Digits digit 4 serial) :
      Written digit (area ++ (gap ++ (group ++ (gap' ++ serial))))

theorem dropDigits?_eq_some_iff : dropDigits? n s = some r ↔
    ∃ w, Digits ScalarSet.decimalDigit.contains n w ∧ s = w ++ r := by
  fun_induction dropDigits? n s with
  | case1 s => simp [Digits.zero_iff]
  | case2 n c rest hc ih =>
    rw [ih]
    constructor
    · rintro ⟨w, hw, rfl⟩
      exact ⟨c :: w, Digits.succ_iff.mpr ⟨c, w, hc, hw, rfl⟩, rfl⟩
    · rintro ⟨_, hdigits, hs⟩
      obtain ⟨d, w, _, hw, rfl⟩ := Digits.succ_iff.mp hdigits
      exact ⟨w, hw, (List.cons_eq_cons.mp hs).2⟩
  | case3 n c rest hc =>
    refine iff_of_false (by simp) ?_
    rintro ⟨_, hdigits, hs⟩
    obtain ⟨d, w, hd, _, rfl⟩ := Digits.succ_iff.mp hdigits
    exact hc ((List.cons_eq_cons.mp hs).1 ▸ hd)
  | case4 n =>
    refine iff_of_false (by simp) ?_
    rintro ⟨_, hdigits, hs⟩
    obtain ⟨d, w, _, _, rfl⟩ := Digits.succ_iff.mp hdigits
    cases hs

theorem dropSeparator_cases (s : List Char) : ∃ gap ∈ gaps, s = gap ++ dropSeparator s := by
  fun_cases dropSeparator s with
  | case1 rest => exact ⟨['-'], by decide, rfl⟩
  | case2 rest => exact ⟨[' '], by decide, rfl⟩
  | case3 s => exact ⟨[], by decide, rfl⟩

theorem gap_cases (hgap : gap ∈ gaps) : gap = [] ∨ gap = [' '] ∨ gap = ['-'] := by
  simpa [gaps] using hgap

/-- Before a digit a gap is dropped whole, as no separator is a digit. -/
theorem dropSeparator_append (hgap : gap ∈ gaps)
    (hw : Digits ScalarSet.decimalDigit.contains (n + 1) w) :
    dropSeparator (gap ++ (w ++ r)) = w ++ r := by
  rcases gap_cases hgap with rfl | rfl | rfl
  · obtain ⟨c, v, hc, _, rfl⟩ := Digits.succ_iff.mp hw
    rw [List.nil_append, List.cons_append, dropSeparator]
    · rintro rest ⟨⟩
      exact absurd hc (by decide)
    · rintro rest ⟨⟩
      exact absurd hc (by decide)
  · rfl
  · rfl

theorem isValid_iff_drops (s : List Char) : isValid s = true ↔
    ∃ afterArea, dropDigits? 3 s = some afterArea ∧
      ∃ afterGroup, dropDigits? 2 (dropSeparator afterArea) = some afterGroup ∧
        dropDigits? 4 (dropSeparator afterGroup) = some [] := by
  rw [isValid]
  cases dropDigits? 3 s with
  | none => simp
  | some afterArea =>
    cases hgroup : dropDigits? 2 (dropSeparator afterArea) with
    | none => simp [hgroup]
    | some afterGroup => simp [hgroup]

theorem isValid_iff (s : List Char) :
    isValid s = true ↔ Written ScalarSet.decimalDigit.contains s := by
  simp only [isValid_iff_drops, dropDigits?_eq_some_iff]
  constructor
  · rintro ⟨afterArea, ⟨area, harea, rfl⟩, afterGroup, ⟨group, hgroup, hafterArea⟩,
      serial, hserial, hafterGroup⟩
    obtain ⟨gap, hgap, hgapped⟩ := dropSeparator_cases afterArea
    obtain ⟨gap', hgap', hgapped'⟩ := dropSeparator_cases afterGroup
    rw [hgapped, hafterArea, hgapped', hafterGroup, List.append_nil]
    exact .intro harea hgap hgroup hgap' hserial
  · rintro ⟨harea, hgap, hgroup, hgap', hserial⟩
    refine ⟨_, ⟨_, harea, rfl⟩, _, ⟨_, hgroup, dropSeparator_append hgap hgroup⟩, _, hserial, ?_⟩
    simpa using dropSeparator_append (r := []) hgap' hserial

theorem gap_ascii (hgap : gap ∈ gaps) : ∀ c ∈ gap, c.toNat < 128 := by
  rcases gap_cases hgap with rfl | rfl | rfl <;> simp

theorem written_isDigit_iff : Written Char.isDigit s ↔
    Written ScalarSet.decimalDigit.contains s ∧ ∀ c ∈ s, c.toNat < 128 := by
  constructor
  · rintro ⟨harea, hgap, hgroup, hgap', hserial⟩
    obtain ⟨harea, hareaAscii⟩ := Digits.isDigit_iff.mp harea
    obtain ⟨hgroup, hgroupAscii⟩ := Digits.isDigit_iff.mp hgroup
    obtain ⟨hserial, hserialAscii⟩ := Digits.isDigit_iff.mp hserial
    refine ⟨.intro harea hgap hgroup hgap' hserial, ?_⟩
    simp only [List.forall_mem_append]
    exact ⟨hareaAscii, gap_ascii hgap, hgroupAscii, gap_ascii hgap', hserialAscii⟩
  · rintro ⟨⟨harea, hgap, hgroup, hgap', hserial⟩, hascii⟩
    simp only [List.forall_mem_append] at hascii
    obtain ⟨hareaAscii, _, hgroupAscii, _, hserialAscii⟩ := hascii
    exact .intro (Digits.isDigit_iff.mpr ⟨harea, hareaAscii⟩) hgap
      (Digits.isDigit_iff.mpr ⟨hgroup, hgroupAscii⟩) hgap'
      (Digits.isDigit_iff.mpr ⟨hserial, hserialAscii⟩)

section Pattern
open Pattern

/-- Social security numbers as a pattern. -/
def pattern : String := "^\\d\x7b3\x7d[- ]?\\d\x7b2\x7d[- ]?\\d\x7b4\x7d$"

def separators : ScalarSet := ⟨[0x20, 0x21, 0x2d, 0x2e]⟩

/-- So many digits, as a part of a pattern. -/
def digits (n : Nat) : Pattern := .repeated (.one ScalarSet.decimalDigit) n (some n)

/-- A gap, as a part of a pattern. -/
def optionalSeparator : Pattern := .repeated (.one separators) 0 (some 1)

theorem read?_pattern : Pattern.read? pattern =
    some (whole [digits 3, optionalSeparator, digits 2, optionalSeparator, digits 4]) := by
  decide +kernel

theorem mem_digits_iff : w ∈ (digits n).language ↔
    Digits ScalarSet.decimalDigit.contains n w := by
  rw [digits, mem_repeated_one_iff le_rfl]
  constructor
  · rintro ⟨hleast, hmost, hall⟩
    exact ⟨Nat.le_antisymm hmost hleast, hall⟩
  · rintro ⟨rfl, hall⟩
    exact ⟨le_rfl, le_rfl, hall⟩

theorem mem_optionalSeparator_iff : w ∈ optionalSeparator.language ↔ w ∈ gaps := by
  have hseparator {c : Char} : separators.contains c = true ↔ c = ' ' ∨ c = '-' := by
    rw [← Char.toNat_inj, ← Char.toNat_inj]
    simp only [separators, ScalarSet.contains_range_iff, ScalarSet.contains_nil_iff, or_false]
    change 0x20 ≤ c.toNat ∧ (c.toNat < 0x21 ∨ 0x2d ≤ c.toNat ∧ c.toNat < 0x2e) ↔
      c.toNat = 0x20 ∨ c.toNat = 0x2d
    omega
  rw [optionalSeparator, mem_optional_iff]
  constructor
  · rintro (rfl | ⟨c, hc, rfl⟩)
    · decide
    · rcases hseparator.mp hc with rfl | rfl <;> decide
  · intro hw
    rcases gap_cases hw with rfl | rfl | rfl
    · exact .inl rfl
    · exact .inr ⟨' ', hseparator.mpr (.inl rfl), rfl⟩
    · exact .inr ⟨'-', hseparator.mpr (.inr rfl), rfl⟩

/-- The pattern matches just the numbers. -/
theorem pattern_matches_iff (s : String) : ∃ p, Pattern.read? pattern = some p ∧
    (p.matchesIn s = true ↔ Written ScalarSet.decimalDigit.contains s.toList) := by
  refine ⟨_, read?_pattern, ?_⟩
  rw [matchesIn_whole_iff (by decide)]
  simp only [List.map_cons, List.map_nil, List.prod_cons, List.prod_nil, mul_one, Language.mem_mul,
    mem_digits_iff, mem_optionalSeparator_iff]
  generalize s.toList = t
  constructor
  · rintro ⟨area, harea, _, ⟨gap, hgap, _, ⟨group, hgroup, _, ⟨gap', hgap', serial, hserial,
      rfl⟩, rfl⟩, rfl⟩, rfl⟩
    exact .intro harea hgap hgroup hgap' hserial
  · rintro ⟨harea, hgap, hgroup, hgap', hserial⟩
    exact ⟨_, harea, _, ⟨_, hgap, _, ⟨_, hgroup, _, ⟨_, hgap', _, hserial, rfl⟩, rfl⟩, rfl⟩, rfl⟩

end Pattern
end SocialSecurityNumber

section Accepts
variable {s : String}

theorem PhoneNumber.ascii_iff_accepts : PhoneNumber.Written Char.isDigit s.toList ↔
    Format.e164.accepts s = true ∧ InAscii s := by
  rw [PhoneNumber.written_isDigit_iff, ← PhoneNumber.isE164_iff]
  rfl

theorem SocialSecurityNumber.ascii_iff_accepts :
    SocialSecurityNumber.Written Char.isDigit s.toList ↔
      Format.ssn.accepts s = true ∧ InAscii s := by
  rw [SocialSecurityNumber.written_isDigit_iff, ← SocialSecurityNumber.isValid_iff]
  rfl

/-- Either format accepts the numbers that are written with digits of any script, and so do the
patterns. The grammar with ASCII digits agrees about a text unless the text is such a number with
a digit of another script. -/
theorem numbers_accepted_iff (s : String) :
    (Format.e164.accepts s = true ↔
      PhoneNumber.Written ScalarSet.decimalDigit.contains s.toList) ∧
    (∃ p, Pattern.read? PhoneNumber.pattern = some p ∧
      (p.matchesIn s = true ↔ Format.e164.accepts s = true)) ∧
    ((Format.e164.accepts s = true ↔ PhoneNumber.Written Char.isDigit s.toList) ↔
      (PhoneNumber.Written ScalarSet.decimalDigit.contains s.toList → InAscii s)) ∧
    (Format.ssn.accepts s = true ↔
      SocialSecurityNumber.Written ScalarSet.decimalDigit.contains s.toList) ∧
    (∃ p, Pattern.read? SocialSecurityNumber.pattern = some p ∧
      (p.matchesIn s = true ↔ Format.ssn.accepts s = true)) ∧
    ((Format.ssn.accepts s = true ↔ SocialSecurityNumber.Written Char.isDigit s.toList) ↔
      (SocialSecurityNumber.Written ScalarSet.decimalDigit.contains s.toList → InAscii s)) := by
  have hphone : Format.e164.accepts s = true ↔
      PhoneNumber.Written ScalarSet.decimalDigit.contains s.toList :=
    PhoneNumber.isE164_iff s.toList
  have hsocial : Format.ssn.accepts s = true ↔
      SocialSecurityNumber.Written ScalarSet.decimalDigit.contains s.toList :=
    SocialSecurityNumber.isValid_iff s.toList
  refine ⟨hphone, ?_, ?_, hsocial, ?_, ?_⟩
  · obtain ⟨p, hread, hmatches⟩ := PhoneNumber.pattern_matches_iff s
    exact ⟨p, hread, hmatches.trans hphone.symm⟩
  · rw [PhoneNumber.ascii_iff_accepts, ← hphone, iff_self_and]
  · obtain ⟨p, hread, hmatches⟩ := SocialSecurityNumber.pattern_matches_iff s
    exact ⟨p, hread, hmatches.trans hsocial.symm⟩
  · rw [SocialSecurityNumber.ascii_iff_accepts, ← hsocial, iff_self_and]

/-- Numbers with digits of the Arabic script are accepted. -/
theorem arabic_digits_accepted :
    let phone := "+1\u0662345"
    let social := "12\u0663-45-6789"
    Format.e164.accepts phone = true ∧ ¬ PhoneNumber.Written Char.isDigit phone.toList ∧
      ¬ InAscii phone ∧ Format.ssn.accepts social = true ∧
      ¬ SocialSecurityNumber.Written Char.isDigit social.toList ∧ ¬ InAscii social := by
  intro phone social
  have hphone : ¬ InAscii phone := fun h => absurd (h '\u0662' (by decide)) (by decide)
  have hsocial : ¬ InAscii social := fun h => absurd (h '\u0663' (by decide)) (by decide)
  exact ⟨by decide, fun h => hphone (PhoneNumber.ascii_iff_accepts.mp h).2, hphone,
    by decide, fun h => hsocial (SocialSecurityNumber.ascii_iff_accepts.mp h).2, hsocial⟩

end Accepts
end Verdict
