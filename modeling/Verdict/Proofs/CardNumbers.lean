import Mathlib.Logic.ExistsUnique
import Verdict.Formats.Format

/-! What the check sum of card numbers detects: any digit changed, and any two neighbours exchanged
but for a zero and a nine. Separators take no part in it. -/
namespace Verdict
namespace CardNumber

/-- What a digit counts, at a doubled place or at another. -/
def weight (twice : Bool) (d : Nat) : Nat := if twice then doubled d else d

/-- The sum of weights by turns, beginning at a doubled place or at another. -/
def weightSum (twice : Bool) : List Nat → Nat
  | [] => 0
  | d :: ds => weight twice d + weightSum (!twice) ds

theorem checkSum_eq_weightSum (ds : List Nat) : checkSum ds = weightSum false ds := by
  fun_induction checkSum ds with
  | case1 => rfl
  | case2 d => rfl
  | case3 d e rest ih =>
    rw [ih, Nat.add_assoc]
    rfl

/-- Whether the place after `n` digits is doubled. -/
def doubledAfter (twice : Bool) : Nat → Bool
  | 0 => twice
  | n + 1 => doubledAfter (!twice) n

theorem weightSum_append (twice : Bool) (ds es : List Nat) : weightSum twice (ds ++ es) =
    weightSum twice ds + weightSum (doubledAfter twice ds.length) es := by
  induction ds generalizing twice with
  | nil => exact (Nat.zero_add _).symm
  | cons d ds ih =>
    rw [List.cons_append, weightSum, ih, weightSum, Nat.add_assoc]
    rfl

theorem weight_inj : ∀ twice : Bool, ∀ d < 10, ∀ e < 10,
    weight twice d = weight twice e → d = e := by
  decide

theorem weight_lt : ∀ twice : Bool, ∀ d < 10, weight twice d < 10 := by
  decide

theorem exists_weight : ∀ twice : Bool, ∀ r < 10, ∃ d < 10, (weight twice d + r) % 10 = 0 := by
  decide

/-- A zero and a nine count alike at both kinds of places, and no other digits do. -/
theorem weight_exchange : ∀ twice : Bool, ∀ d < 10, ∀ e < 10,
    ((weight twice d + weight (!twice) e) % 10 = (weight twice e + weight (!twice) d) % 10 ↔
      d = e ∨ (d = 0 ∧ e = 9) ∨ (d = 9 ∧ e = 0)) := by
  decide

section Sums
variable {ds es : List Nat} {d e : Nat}

theorem checkSum_reverse_place (ds es : List Nat) (d : Nat) :
    checkSum (ds ++ d :: es).reverse = weightSum false es.reverse +
      (weight (doubledAfter false es.length) d +
        weightSum (!doubledAfter false es.length) ds.reverse) := by
  rw [checkSum_eq_weightSum, List.reverse_append, List.reverse_cons, List.append_assoc,
    List.singleton_append, weightSum_append, List.length_reverse, weightSum]

theorem checkSum_changed_iff (ds es : List Nat) (hd : d < 10) (he : e < 10) :
    checkSum (ds ++ d :: es).reverse % 10 = checkSum (ds ++ e :: es).reverse % 10 ↔ d = e := by
  rw [checkSum_reverse_place, checkSum_reverse_place]
  generalize doubledAfter false es.length = twice
  constructor
  · intro h
    apply weight_inj twice d hd e he
    have hwd := weight_lt twice d hd
    have hwe := weight_lt twice e he
    omega
  · rintro rfl
    rfl

theorem checkSum_exchanged_iff (ds es : List Nat) (hd : d < 10) (he : e < 10) :
    checkSum (ds ++ d :: e :: es).reverse % 10 = checkSum (ds ++ e :: d :: es).reverse % 10 ↔
      d = e ∨ (d = 0 ∧ e = 9) ∨ (d = 9 ∧ e = 0) := by
  have hpair (x y : Nat) : checkSum (ds ++ x :: y :: es).reverse = weightSum false es.reverse +
      (weight (doubledAfter false es.length) y + (weight (!doubledAfter false es.length) x +
        weightSum (doubledAfter false es.length) ds.reverse)) := by
    rw [List.append_cons, checkSum_reverse_place, List.reverse_append, List.reverse_singleton,
      List.singleton_append, weightSum, Bool.not_not]
  rw [hpair, hpair, ← weight_exchange (!doubledAfter false es.length) d hd e he, Bool.not_not]
  omega

/-- At every place there is a digit for which the sum ends in zero. -/
theorem exists_checkSum (ds es : List Nat) :
    ∃ d < 10, checkSum (ds ++ d :: es).reverse % 10 = 0 := by
  simp only [checkSum_reverse_place]
  generalize weightSum false es.reverse = behind
  generalize doubledAfter false es.length = twice
  generalize weightSum (!twice) ds.reverse = ahead
  obtain ⟨d, hd, h⟩ := exists_weight twice ((behind + ahead) % 10) (Nat.mod_lt _ (by decide))
  exact ⟨d, hd, by omega⟩

end Sums

section Digits
variable {s t before gap after : List Char} {d e : Char} {ds : List Nat}

/-- The number that a digit stands for. -/
def digitValue (c : Char) : Nat := c.toNat - '0'.toNat

theorem digitValue_add_of_isDigit (hd : d.isDigit = true) :
    digitValue d + '0'.toNat = d.toNat ∧ digitValue d < 10 := by
  obtain ⟨hlo, hhi⟩ := Char.isDigit_iff_toNat.mp hd
  have hten : '9'.toNat = '0'.toNat + 9 := rfl
  rw [digitValue]
  omega

theorem digitValue_inj (hd : d.isDigit = true) (he : e.isDigit = true) :
    digitValue d = digitValue e ↔ d = e := by
  refine ⟨fun h => ?_, congrArg digitValue⟩
  apply Char.toNat_inj.mp
  rw [← (digitValue_add_of_isDigit hd).1, h, (digitValue_add_of_isDigit he).1]

theorem exists_digitValue {n : Nat} (hn : n < 10) :
    ∃ c : Char, c.isDigit = true ∧ digitValue c = n := by
  refine ⟨Char.ofNat ('0'.toNat + n), ?_⟩
  decide +revert

theorem digits?_append (s t : List Char) :
    digits? (s ++ t) = (digits? s).bind fun a => (digits? t).map fun b => a ++ b := by
  simp only [digits?, List.filter_append, List.mapM_append, Option.map_eq_bind]
  rfl

theorem digits?_of_separators (h : gap.all isSeparator = true) : digits? gap = some [] := by
  have hnone : gap.filter (fun c => !isSeparator c) = [] := by
    rw [List.filter_eq_nil_iff]
    intro c hc
    simpa using List.all_eq_true.mp h c hc
  rw [digits?, hnone]
  rfl

theorem not_isSeparator_of_isDigit (hd : d.isDigit = true) : isSeparator d = false := by
  rw [isSeparator, Bool.or_eq_false_iff, beq_eq_false_iff_ne, beq_eq_false_iff_ne]
  constructor <;> rintro rfl <;> exact absurd hd (by decide)

theorem digits?_cons (hd : d.isDigit = true) (s : List Char) :
    digits? (d :: s) = (digits? s).map (digitValue d :: ·) := by
  have hkeep : (!isSeparator d) = true := by rw [not_isSeparator_of_isDigit hd]; rfl
  rw [digits?, List.filter_cons_of_pos (p := fun c => !isSeparator c) hkeep, List.mapM_cons,
    digit?, if_pos hd]
  exact (Option.map_eq_bind ..).symm

theorem digits?_gap_append (h : gap.all isSeparator = true) (s : List Char) :
    digits? (gap ++ s) = digits? s := by
  rw [digits?_append, digits?_of_separators h]
  exact (Option.map_id' ..)

theorem digits?_cons_of_isSeparator {c : Char} (hc : isSeparator c = true) (s : List Char) :
    digits? (c :: s) = digits? s := by
  have hgap : [c].all isSeparator = true := by rw [List.all_cons, hc]; rfl
  exact digits?_gap_append hgap s

/-- A digit in a text stands between the digits on either side. -/
theorem digits?_at_eq_some_iff (hd : d.isDigit = true) :
    digits? (before ++ d :: after) = some ds ↔
      ∃ a b, digits? before = some a ∧ digits? after = some b ∧ a ++ digitValue d :: b = ds := by
  simp only [digits?_append, digits?_cons hd, Option.bind_eq_some_iff, Option.map_eq_some_iff]
  constructor
  · rintro ⟨a, ha, _, ⟨b, hb, rfl⟩, rfl⟩
    exact ⟨a, b, ha, hb, rfl⟩
  · rintro ⟨a, b, ha, hb, rfl⟩
    exact ⟨a, ha, _, ⟨b, hb, rfl⟩, rfl⟩

theorem isValid_iff : isValid s = true ↔ ∃ ds, digits? s = some ds ∧
    (12 ≤ ds.length ∧ ds.length ≤ 19) ∧ checkSum ds.reverse % 10 = 0 := by
  rw [isValid]
  cases digits? s <;> simp

theorem isValid_iff_of_digits (h : digits? s = some ds) : isValid s = true ↔
    (12 ≤ ds.length ∧ ds.length ≤ 19) ∧ checkSum ds.reverse % 10 = 0 := by
  rw [isValid_iff, h]
  simp

/-- A valid number does not stay valid if a digit of it is changed. -/
theorem isValid_changed_iff (hd : d.isDigit = true) (he : e.isDigit = true)
    (h : isValid (before ++ d :: after) = true) :
    isValid (before ++ e :: after) = true ↔ d = e := by
  obtain ⟨ds, hds, hlength, hsum⟩ := isValid_iff.mp h
  obtain ⟨a, b, ha, hb, rfl⟩ := (digits?_at_eq_some_iff hd).mp hds
  have hchanged := checkSum_changed_iff a b
    (digitValue_add_of_isDigit hd).2 (digitValue_add_of_isDigit he).2
  rw [hsum, digitValue_inj hd he] at hchanged
  rw [isValid_iff_of_digits ((digits?_at_eq_some_iff he).mpr ⟨a, b, ha, hb, rfl⟩), ← hchanged,
    eq_comm (a := 0)]
  rw [List.length_append, List.length_cons] at hlength ⊢
  exact and_iff_right hlength

/-- A valid number does not stay valid if two neighbours in it are exchanged, unless they are
alike or a zero and a nine. -/
theorem isValid_exchanged_iff (hd : d.isDigit = true) (he : e.isDigit = true)
    (hgap : gap.all isSeparator = true) (h : isValid (before ++ d :: (gap ++ e :: after)) = true) :
    isValid (before ++ e :: (gap ++ d :: after)) = true ↔
      d = e ∨ (d = '0' ∧ e = '9') ∨ (d = '9' ∧ e = '0') := by
  obtain ⟨ds, hds, hlength, hsum⟩ := isValid_iff.mp h
  obtain ⟨a, _, ha, hafter, rfl⟩ := (digits?_at_eq_some_iff hd).mp hds
  rw [digits?_gap_append hgap, digits?_cons he] at hafter
  obtain ⟨b, hb, rfl⟩ := Option.map_eq_some_iff.mp hafter
  have hother : digits? (before ++ e :: (gap ++ d :: after)) =
      some (a ++ digitValue e :: digitValue d :: b) := by
    rw [digits?_at_eq_some_iff he, digits?_gap_append hgap, digits?_cons hd, hb]
    exact ⟨a, _, ha, rfl, rfl⟩
  have hzero {c : Char} (hc : c.isDigit = true) : digitValue c = 0 ↔ c = '0' :=
    digitValue_inj (e := '0') hc (by decide)
  have hnine {c : Char} (hc : c.isDigit = true) : digitValue c = 9 ↔ c = '9' :=
    digitValue_inj (e := '9') hc (by decide)
  have hexchanged := checkSum_exchanged_iff a b
    (digitValue_add_of_isDigit hd).2 (digitValue_add_of_isDigit he).2
  rw [hsum, digitValue_inj hd he, hzero hd, hnine he, hnine hd, hzero he] at hexchanged
  rw [isValid_iff_of_digits hother, ← hexchanged, eq_comm (a := 0)]
  simp only [List.length_append, List.length_cons] at hlength ⊢
  exact and_iff_right hlength

theorem exists_digits? (h : ∀ c ∈ s, c.isDigit = true ∨ isSeparator c = true) :
    ∃ ds, digits? s = some ds ∧ ds.length = s.countP Char.isDigit := by
  induction s with
  | nil => exact ⟨[], rfl, rfl⟩
  | cons c s ih =>
    obtain ⟨hc, hs⟩ := List.forall_mem_cons.mp h
    obtain ⟨ds, hds, hlength⟩ := ih hs
    rcases hc with hc | hc
    · refine ⟨digitValue c :: ds, ?_, ?_⟩
      · rw [digits?_cons hc, hds]
        rfl
      · rw [List.countP_cons_of_pos hc, List.length_cons, hlength]
    · have hdigit : ¬ c.isDigit = true := by
        intro hdigit
        rw [not_isSeparator_of_isDigit hdigit] at hc
        cases hc
      refine ⟨ds, ?_, ?_⟩
      · rw [← hds]
        exact digits?_cons_of_isSeparator hc s
      · rw [List.countP_cons_of_neg hdigit, hlength]

/-- At every place of a number one digit and no other makes it valid. -/
theorem existsUnique_isValid
    (h : ∀ c ∈ before ++ after, c.isDigit = true ∨ isSeparator c = true)
    (hlo : 11 ≤ (before ++ after).countP Char.isDigit)
    (hhi : (before ++ after).countP Char.isDigit ≤ 18) :
    ∃! c : Char, c.isDigit = true ∧ isValid (before ++ c :: after) = true := by
  obtain ⟨hbefore, hafter⟩ := List.forall_mem_append.mp h
  obtain ⟨a, ha, halength⟩ := exists_digits? hbefore
  obtain ⟨b, hb, hblength⟩ := exists_digits? hafter
  obtain ⟨n, hn, hsum⟩ := exists_checkSum a b
  obtain ⟨c, hc, rfl⟩ := exists_digitValue hn
  rw [List.countP_append] at hlo hhi
  have hvalid : isValid (before ++ c :: after) = true := by
    rw [isValid_iff_of_digits ((digits?_at_eq_some_iff hc).mpr ⟨a, b, ha, hb, rfl⟩),
      List.length_append, List.length_cons]
    exact ⟨by omega, hsum⟩
  refine ⟨c, ⟨hc, hvalid⟩, ?_⟩
  rintro e ⟨he, hother⟩
  exact ((isValid_changed_iff hc he hvalid).mp hother).symm

end Digits

/-- Texts that are alike but for separators put in or left out anywhere. -/
inductive Respaced : List Char → List Char → Prop
  | nil : Respaced [] []
  | kept (c : Char) {s t : List Char} (h : Respaced s t) : Respaced (c :: s) (c :: t)
  | inserted {c : Char} {s t : List Char} (hc : isSeparator c = true) (h : Respaced s t) :
      Respaced s (c :: t)
  | deleted {c : Char} {s t : List Char} (hc : isSeparator c = true) (h : Respaced s t) :
      Respaced (c :: s) t

namespace Respaced

theorem refl (s : List Char) : Respaced s s := by
  induction s with
  | nil => exact .nil
  | cons c s ih => exact .kept c ih

theorem digits?_eq {s t : List Char} (h : Respaced s t) : digits? s = digits? t := by
  induction h with
  | nil => rfl
  | kept c _ ih =>
    rw [← List.singleton_append, digits?_append, ih, ← digits?_append, List.singleton_append]
  | inserted hc _ ih => rw [digits?_cons_of_isSeparator hc, ih]
  | deleted hc _ ih => rw [digits?_cons_of_isSeparator hc, ih]

end Respaced

theorem accepts_ofList (s : List Char) :
    Format.creditCard.accepts (String.ofList s) = isValid s := by
  rw [Format.accepts, String.toList_ofList]

/-- A card number is refused if a digit of it was changed, or if two neighbours were exchanged,
unless these are a zero and a nine; separators between the digits do not count, and may be put in
and left out anywhere. At every place one digit and no other makes the number a card number. -/
theorem card_number_detects_errors (s : String) :
    (Format.creditCard.accepts s = true →
      (∀ (before after : List Char) (d e : Char), s.toList = before ++ d :: after →
        d.isDigit = true → e.isDigit = true →
        (Format.creditCard.accepts (String.ofList (before ++ e :: after)) = true ↔ d = e)) ∧
      ∀ (before gap after : List Char) (d e : Char), s.toList = before ++ d :: (gap ++ e :: after) →
        gap.all isSeparator = true → d.isDigit = true → e.isDigit = true →
        (Format.creditCard.accepts (String.ofList (before ++ e :: (gap ++ d :: after))) = true ↔
          d = e ∨ (d = '0' ∧ e = '9') ∨ (d = '9' ∧ e = '0'))) ∧
    (∀ t : String, Respaced s.toList t.toList →
      Format.creditCard.accepts t = Format.creditCard.accepts s) ∧
    ∀ before after : List Char, s.toList = before ++ after →
      (∀ c ∈ s.toList, c.isDigit = true ∨ isSeparator c = true) →
      11 ≤ s.toList.countP Char.isDigit → s.toList.countP Char.isDigit ≤ 18 →
      ∃! c : Char, c.isDigit = true ∧
        Format.creditCard.accepts (String.ofList (before ++ c :: after)) = true := by
  simp only [accepts_ofList]
  refine ⟨fun h => ⟨?_, ?_⟩, ?_, ?_⟩
  · intro before after d e hs hd he
    rw [Format.accepts, hs] at h
    exact isValid_changed_iff hd he h
  · intro before gap after d e hs hgap hd he
    rw [Format.accepts, hs] at h
    exact isValid_exchanged_iff hd he hgap h
  · intro t ht
    rw [Format.accepts, Format.accepts, isValid, isValid, ht.digits?_eq]
  · intro before after hs hchars hlo hhi
    rw [hs] at hchars hlo hhi
    exact existsUnique_isValid hchars hlo hhi

/-- A seven for the three in front is detected, and so are the neighbours one and seven exchanged
across a hyphen; without separators the number is the same. -/
theorem card_number_detects_errors_of_grouped :
    let accepts := Format.creditCard.accepts
    accepts "3755 5691-7985515" = true ∧ accepts "7755 5691-7985515" = false ∧
      accepts "3755 5697-1985515" = false ∧ accepts "37555691-7985515" = true ∧
      ∃! c : Char, c.isDigit = true ∧
        accepts (String.ofList ("3755 5691-".toList ++ c :: "7985515".toList)) = true := by
  intro accepts
  have hs : accepts "3755 5691-7985515" = true := by decide
  obtain ⟨hdetects, hrespaced, hunique⟩ := card_number_detects_errors "3755 5691-7985515"
  obtain ⟨hchanged, hexchanged⟩ := hdetects hs
  have hfirst := hchanged [] "755 5691-7985515".toList '3' '7' (by decide) (by decide) (by decide)
  have hpair := hexchanged "3755 569".toList ['-'] "985515".toList '1' '7'
    (by decide) (by decide) (by decide) (by decide)
  have hrest : Respaced "3755 5691-7985515".toList "37555691-7985515".toList :=
    .kept '3' (.kept '7' (.kept '5' (.kept '5' (.deleted rfl (.refl "5691-7985515".toList)))))
  have hchars : ("3755 5691-7985515".toList.all fun c => c.isDigit || isSeparator c) = true := by
    decide
  simp only [List.all_eq_true, Bool.or_eq_true] at hchars
  refine ⟨hs, ?_, ?_, (hrespaced _ hrest).trans hs, ?_⟩
  · exact Bool.eq_false_iff.mpr (mt hfirst.mp (by decide))
  · exact Bool.eq_false_iff.mpr (mt hpair.mp (by decide))
  · exact hunique _ _ (by decide) hchars (by decide) (by decide)

end CardNumber
end Verdict
