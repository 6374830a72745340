import Verdict.Json.JsonTree
import Verdict.Proofs.EqualValues

/-! Equal documents. Equality is symmetric and transitive, a document of finite numbers equals
itself, and without floating-point numbers equal documents are the same. -/
namespace Verdict

namespace JsonNumber
variable {m n l : JsonNumber}

/-- No document holds an infinite number or a NaN. -/
def IsFinite (n : JsonNumber) : Prop := ∀ x, n = .float x → x.isFinite = true

def IsFloat (n : JsonNumber) : Prop := ∃ x, n = .float x

theorem isEqual_self (h : n.IsFinite) : n.isEqual n = true := by
  cases n with
  | natural a => exact beq_self_eq_true a
  | negative a => exact beq_self_eq_true a
  | float x =>
    have hx : x.isFinite = true := h x rfl
    rw [isEqual, Binary64.numericEq_self, Binary64.isNaN]
    simp only [Binary64.isFinite, decide_eq_true_eq] at hx
    simpa using hx.le

theorem isEqual_symm (h : m.isEqual n = true) : n.isEqual m = true := by
  cases m <;> cases n <;> try cases h
  · rw [isEqual, BEq.comm]
    exact h
  · rw [isEqual, BEq.comm]
    exact h
  · rw [isEqual, Binary64.numericEq_symm]
    exact h

theorem eq_of_isEqual (hf : ¬ m.IsFloat) (h : m.isEqual n = true) : m = n := by
  cases m <;> cases n <;> try cases h
  · exact congrArg natural (beq_iff_eq.mp h)
  · exact congrArg negative (beq_iff_eq.mp h)
  · exact absurd ⟨_, rfl⟩ hf

theorem isEqual_trans (h : m.isEqual n = true) (k : n.isEqual l = true) : m.isEqual l = true := by
  by_cases hm : m.IsFloat
  · obtain ⟨x, rfl⟩ := hm
    cases n <;> cases l <;> try first | cases h | cases k
    exact Binary64.numericEq_trans h k
  · rwa [eq_of_isEqual hm h]

end JsonNumber

namespace Json

/-- Every number in a document, at any depth, has the property. -/
inductive Numbers (P : JsonNumber → Prop) : Json → Prop
  | null : Numbers P .null
  | bool (b : Bool) : Numbers P (.bool b)
  | number {n : JsonNumber} (h : P n) : Numbers P (.number n)
  | string (s : String) : Numbers P (.string s)
  | array {items : List Json} (h : ∀ j ∈ items, Numbers P j) : Numbers P (.array items)
  | object {members : List (String × Json)} (h : ∀ m ∈ members, Numbers P m.2) :
      Numbers P (.object members)

/-- A document as it can be written: without infinite numbers and NaN. -/
abbrev Finite (j : Json) : Prop := j.Numbers JsonNumber.IsFinite

abbrev FloatFree (j : Json) : Prop := j.Numbers fun n => ¬ n.IsFloat

/-- What holds of all numbers holds of those in a document. -/
theorem numbers_of_forall {P : JsonNumber → Prop} (h : ∀ n, P n) : ∀ j : Json, j.Numbers P
  | .null => .null
  | .bool b => .bool b
  | .number n => .number (h n)
  | .string s => .string s
  | .array items => .array fun j _ => numbers_of_forall h j
  | .object members => .object fun m _ => numbers_of_forall h m.2
decreasing_by
  · have hj := List.sizeOf_lt_of_mem ‹j ∈ items›
    simp only [array.sizeOf_spec]
    omega
  · obtain ⟨key, j⟩ := m
    have hm := List.sizeOf_lt_of_mem ‹(key, j) ∈ members›
    simp only [object.sizeOf_spec, Prod.mk.sizeOf_spec] at hm ⊢
    omega

/-- Equality as a relation. -/
abbrev Equal (i j : Json) : Prop := i.isEqual j = true

theorem areEqual_iff {is js : List Json} : areEqual is js = true ↔ List.Forall₂ Equal is js := by
  induction is generalizing js with
  | nil => cases js <;> simp [areEqual]
  | cons i is ih => cases js <;> simp [areEqual, ih]

theorem membersEqual_iff {ms ns : List (String × Json)} :
    membersEqual ms ns = true ↔ List.Forall₂ (fun m n => m.1 = n.1 ∧ Equal m.2 n.2) ms ns := by
  induction ms generalizing ns with
  | nil => cases ns <;> simp [membersEqual]
  | cons m ms ih => cases ns <;> simp [membersEqual, ih]

variable {i j k : Json}

theorem equal_refl (h : j.Finite) : Equal j j := by
  induction h with
  | null => rfl
  | bool b => exact beq_self_eq_true b
  | number hn => exact JsonNumber.isEqual_self hn
  | string s => exact beq_self_eq_true s
  | array _ ih => exact areEqual_iff.mpr (List.forall₂_same.mpr ih)
  | object _ ih => exact membersEqual_iff.mpr (List.forall₂_same.mpr fun m hm => ⟨rfl, ih m hm⟩)

/-- Documents without floating-point numbers equal no others. -/
theorem eq_of_equal (hi : i.FloatFree) (h : Equal i j) : i = j := by
  induction hi generalizing j with
  | null => cases j <;> first | rfl | cases h
  | bool b =>
    cases j with
    | bool c => exact congrArg bool (beq_iff_eq.mp h)
    | _ => cases h
  | number hn =>
    cases j with
    | number n => exact congrArg number (JsonNumber.eq_of_isEqual hn h)
    | _ => cases h
  | string s =>
    cases j with
    | string t => exact congrArg string (beq_iff_eq.mp h)
    | _ => cases h
  | array _ ih =>
    cases j with
    | array js =>
      have hsame := forall₂_imp_of_mem (fun i hi _ _ hij => ih i hi hij) (areEqual_iff.mp h)
      rw [List.forall₂_eq_eq_eq] at hsame
      exact congrArg array hsame
    | _ => cases h
  | object _ ih =>
    cases j with
    | object ns =>
      have hsame := forall₂_imp_of_mem
        (fun m hm _ _ hmn => Prod.ext hmn.1 (ih m hm hmn.2)) (membersEqual_iff.mp h)
      rw [List.forall₂_eq_eq_eq] at hsame
      exact congrArg object hsame
    | _ => cases h

theorem equal_symm (h : Equal i j) : Equal j i := by
  -- All documents satisfy a trivial property of their numbers, which gives the induction.
  induction numbers_of_forall (P := fun _ => True) (fun _ => trivial) i generalizing j with
  | null => cases j <;> first | rfl | cases h
  | bool b =>
    cases j with
    | bool c =>
      rw [Equal, isEqual, BEq.comm]
      exact h
    | _ => cases h
  | number _ =>
    cases j with
    | number n => exact JsonNumber.isEqual_symm h
    | _ => cases h
  | string s =>
    cases j with
    | string t =>
      rw [Equal, isEqual, BEq.comm]
      exact h
    | _ => cases h
  | array _ ih =>
    cases j with
    | array js =>
      have hflip := forall₂_imp_of_mem (fun i hi _ _ hij => ih i hi hij) (areEqual_iff.mp h)
      exact areEqual_iff.mpr hflip.flip
    | _ => cases h
  | object _ ih =>
    cases j with
    | object ns =>
      have hflip := forall₂_imp_of_mem (S := fun m n => n.1 = m.1 ∧ Equal n.2 m.2)
        (fun m hm _ _ hmn => ⟨hmn.1.symm, ih m hm hmn.2⟩) (membersEqual_iff.mp h)
      exact membersEqual_iff.mpr hflip.flip
    | _ => cases h

theorem equal_trans (h : Equal i j) (hk : Equal j k) : Equal i k := by
  induction numbers_of_forall (P := fun _ => True) (fun _ => trivial) i generalizing j k with
  | null => cases j <;> first | exact hk | cases h
  | bool b =>
    cases j with
    | bool c => rwa [beq_iff_eq.mp h]
    | _ => cases h
  | number _ =>
    cases j with
    | number n =>
      cases k with
      | number l => exact JsonNumber.isEqual_trans h hk
      | _ => cases hk
    | _ => cases h
  | string s =>
    cases j with
    | string t => rwa [beq_iff_eq.mp h]
    | _ => cases h
  | array _ ih =>
    cases j with
    | array js =>
      cases k with
      | array ks =>
        exact areEqual_iff.mpr (forall₂_trans_of_mem (fun i hi _ _ hij hjk => ih i hi hij hjk)
          (areEqual_iff.mp h) (areEqual_iff.mp hk))
      | _ => cases hk
    | _ => cases h
  | object _ ih =>
    cases j with
    | object ns =>
      cases k with
      | object ls =>
        refine membersEqual_iff.mpr (forall₂_trans_of_mem (fun m hm _ _ hmn hnl => ?_)
          (membersEqual_iff.mp h) (membersEqual_iff.mp hk))
        exact ⟨hmn.1.trans hnl.1, ih m hm hmn.2 hnl.2⟩
      | _ => cases hk
    | _ => cases h

end Json
end Verdict
